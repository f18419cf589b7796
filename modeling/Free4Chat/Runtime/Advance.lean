import Free4Chat.Runtime.LedgerChange

/-!
# How the Goroutines Go On

What a step adds to the record of a run, and how it moves the goroutine that takes it. The proofs
about runs use these descriptions in place of the definition of a step.

* `ResidentRuntime.KeepsLanes`: the sections that leave the lanes as they are.
* `RuntimeRun.harnessEventsBy`, `RuntimeRun.acceptedBy`, `RuntimeRun.settledBy` and
  `RuntimeRun.quarantinedBy`: what a step adds to the record.
* `TurnAdvance` and `TurnsChange`: how a turn goes on, and the turns after a step.
* `SteersChange`, `SettlersChange`, `SchedulersChange` and `ReaderChange`: the other goroutines
  after a step.
* `RuntimeRun.outcome_of_next`: a step does nothing else, apart from the ledgers.
-/

namespace Free4Chat

/-! ## The lanes -/

/-- The lanes are as before, and a Runtime that shuts down goes on shutting down. -/
structure ResidentRuntime.KeepsLanes (r r' : ResidentRuntime) : Prop where
  activeTurns : r'.activeTurns = r.activeTurns
  turnLanes : r'.turnLanes = r.turnLanes
  stopped : r.stopped = true → r'.stopped = true
  admissionsClosed : r.admissionsClosed = true → r'.admissionsClosed = true

/-- The lanes are as before, and so is the cursor. No scope is given back. -/
structure ResidentRuntime.Keeps (r r' : ResidentRuntime) : Prop extends r.KeepsLanes r' where
  cursor : r'.cursor = r.cursor
  released : ∀ scope released, r'.releasedTaskScopes.get? scope = some released →
    r.releasedTaskScopes.get? scope = some released

namespace ResidentRuntime.Keeps

variable {r r' r'' : ResidentRuntime} {scope : String} {target : ℕ}

lemma refl (r : ResidentRuntime) : r.Keeps r := ⟨⟨rfl, rfl, id, id⟩, rfl, fun _ _ => id⟩

lemma trans (h : r.Keeps r') (h' : r'.Keeps r'') : r.Keeps r'' :=
  ⟨⟨h'.activeTurns.trans h.activeTurns, h'.turnLanes.trans h.turnLanes, h'.stopped ∘ h.stopped,
    h'.admissionsClosed ∘ h.admissionsClosed⟩, h'.cursor.trans h.cursor,
    fun scope released => h.released scope released ∘ h'.released scope released⟩

lemma setSession (session : LogicalSession) : r.Keeps (r.setSession scope session) := by
  unfold ResidentRuntime.setSession
  split <;> exact ⟨⟨rfl, rfl, id, id⟩, rfl, fun _ _ => id⟩

lemma updateSession (change : LogicalSession → LogicalSession) :
    r.Keeps (r.updateSession scope change) := by
  unfold ResidentRuntime.updateSession
  split
  · exact refl r
  · exact setSession _

lemma reopen (event : RoomEvent) : r.Keeps (r.reopen scope event) := by
  unfold ResidentRuntime.reopen
  split
  · exact ⟨⟨rfl, rfl, id, id⟩, rfl, fun _ _ => id⟩
  · split <;> exact ⟨⟨rfl, rfl, id, id⟩, rfl, fun _ _ => id⟩

lemma acceptEvent (wireLength : RoomEvent → ℕ) (event : RoomEvent) :
    r.Keeps (r.acceptEvent wireLength event) := by
  unfold ResidentRuntime.acceptEvent
  split
  · exact refl r
  · dsimp only
    split
    · exact refl r
    next session admitted hensured =>
      have hadmitted : r.Keeps admitted := by
        rw [ensureSession?] at hensured
        split at hensured
        · cases hensured
        · split at hensured
          · obtain ⟨-, rfl⟩ := Prod.mk.inj (Option.some.inj hensured)
            exact refl r
          · split at hensured
            · cases hensured
            · obtain ⟨-, rfl⟩ := Prod.mk.inj (Option.some.inj hensured)
              refine ⟨⟨rfl, rfl, id, id⟩, rfl, fun other released hsome => ?_⟩
              rw [KeyedMap.get?_erase] at hsome
              split at hsome
              · cases hsome
              · exact hsome
      have hbuffered : ∀ buffer, r.Keeps { admitted with eventBuffer := buffer } := fun _ =>
        hadmitted.trans ⟨⟨rfl, rfl, id, id⟩, rfl, fun _ _ => id⟩
      split
      · exact ((hbuffered _).trans (setSession _)).trans (reopen event)
      · exact (hbuffered _).trans (setSession _)

lemma acknowledgeHarnessDelivery (through generation : ℕ) :
    r.Keeps (r.acknowledgeHarnessDelivery scope target through generation) := by
  unfold ResidentRuntime.acknowledgeHarnessDelivery
  split
  · exact refl r
  · exact (setSession _).trans ⟨⟨rfl, rfl, id, id⟩, rfl, fun _ _ => id⟩

lemma ackPending : r.Keeps (r.ackPending scope target) := by
  unfold ResidentRuntime.ackPending
  split
  · exact ⟨⟨rfl, rfl, id, id⟩, rfl, fun _ _ => id⟩
  · split
    · exact (setSession _).trans ⟨⟨rfl, rfl, id, id⟩, rfl, fun _ _ => id⟩
    · exact refl r

lemma markTurnFailedInPass : r.Keeps (r.markTurnFailedInPass scope target) := by
  unfold ResidentRuntime.markTurnFailedInPass
  split
  · split <;> exact ⟨⟨rfl, rfl, id, id⟩, rfl, fun _ _ => id⟩
  · exact refl r

lemma closeTurnRecovery : r.Keeps (r.closeTurnRecovery scope target) := by
  unfold ResidentRuntime.closeTurnRecovery
  split
  · exact refl r
  · split <;> exact ⟨⟨rfl, rfl, id, id⟩, rfl, fun _ _ => id⟩

lemma scheduleTurnRetry : r.Keeps (r.scheduleTurnRetry scope target) := by
  unfold ResidentRuntime.scheduleTurnRetry
  dsimp only
  split
  · exact refl r
  · have hcounted : ∀ retries, r.Keeps { r with turnRetries := retries } := fun _ =>
      ⟨⟨rfl, rfl, id, id⟩, rfl, fun _ _ => id⟩
    split
    · exact (hcounted _).trans closeTurnRecovery
    · exact hcounted _

lemma takeTurnRetry : r.Keeps (r.takeTurnRetry scope target) := by
  unfold ResidentRuntime.takeTurnRetry
  split <;> exact ⟨⟨rfl, rfl, id, id⟩, rfl, fun _ _ => id⟩

lemma consumeTurnInterrupted : r.Keeps (r.consumeTurnInterrupted scope target) := by
  unfold ResidentRuntime.consumeTurnInterrupted
  split <;> exact ⟨⟨rfl, rfl, id, id⟩, rfl, fun _ _ => id⟩

lemma markTaskAttentionAndQuarantine (controlUnavailable : Bool) :
    r.Keeps (r.markTaskAttentionAndQuarantine scope controlUnavailable) := by
  have hgiven : r.Keeps (r.updateSession scope LogicalSession.discard) := updateSession _
  unfold ResidentRuntime.markTaskAttentionAndQuarantine
  exact ⟨⟨hgiven.activeTurns, hgiven.turnLanes, hgiven.stopped, hgiven.admissionsClosed⟩,
    hgiven.cursor, hgiven.released⟩

end ResidentRuntime.Keeps

lemma ResidentRuntime.keepsLanes_releaseTerminalTaskScope {r : ResidentRuntime} {scope : String}
    (retained : Bool) : r.KeepsLanes (r.releaseTerminalTaskScope scope retained) := by
  unfold releaseTerminalTaskScope
  split
  · exact ⟨rfl, rfl, id, id⟩
  · split <;> exact ⟨rfl, rfl, id, id⟩

/-- What is remembered of a conversation that was given back is its watermarks. -/
def LogicalSession.Resumes (session : LogicalSession) (released : ReleasedTaskScope) : Prop :=
  released.deliveredThrough = session.deliveredThrough ∧
    released.roomDeliveryFloor = session.roomDeliveryFloor

lemma ResidentRuntime.get?_releaseTerminalTaskScope {r : ResidentRuntime} {scope other : String}
    {retained : Bool} {released : ReleasedTaskScope}
    (h : (r.releaseTerminalTaskScope scope retained).releasedTaskScopes.get? other =
      some released) : r.releasedTaskScopes.get? other = some released ∨
      other = scope ∧ ∃ entry, r.scopedSessions.get? scope = some entry ∧
        entry.2.Resumes released := by
  unfold releaseTerminalTaskScope at h
  split at h
  · exact Or.inl h
  next session hsession =>
    obtain ⟨entry, hentry, rfl⟩ := Option.map_eq_some_iff.mp hsession
    dsimp only at h
    split at h
    · unfold rememberReleasedConversation at h
      dsimp only at h
      rw [KeyedMap.get?_filter, Option.filter_eq_some_iff, KeyedMap.get?_set] at h
      obtain ⟨hfound, -⟩ := h
      split at hfound
      next hscope =>
        obtain rfl := Option.some.inj hfound
        exact Or.inr ⟨hscope.symm, entry, hentry, rfl, rfl⟩
      next => exact Or.inl hfound
    · exact Or.inl h

lemma ResidentRuntime.cursor_releaseTerminalTaskScope {r : ResidentRuntime} {scope : String}
    (retained : Bool) : (r.releaseTerminalTaskScope scope retained).cursor = r.cursor := by
  unfold releaseTerminalTaskScope
  split
  · rfl
  · split <;> rfl


/-! ## The record of a run -/

namespace RuntimeRun

variable (s : RuntimeRun)

/-- What passes between the Runtime and the Harness in a step. -/
def harnessEventsBy : RuntimeStep → List HarnessEvent
  | .turn index step =>
    s.turns[index]?.elim [] fun turn =>
      match turn.phase, step with
      | .rendered _ _, .respond true => [.dispatched turn.scope turn.target]
      | .running generation context, .returned outcome =>
        if outcome.consumes (s.runtime.turnInterrupted turn.scope turn.target) then
          [.acknowledged { scope := turn.scope, target := turn.target, context, generation }]
        else []
      | _, _ => []
  | .steering index .reach =>
    s.steers[index]?.elim [] fun steer =>
      match steer.phase with
      | .prepared context =>
        (s.executesOn? steer.scope steer.turn).elim [] fun generation =>
          [.acknowledged { scope := steer.scope, target := steer.instruction, context, generation }]
      | _ => []
  | _ => []

/-- The instruction that a step admits. -/
def acceptedBy : RuntimeStep → List (String × ℕ)
  | .reader .handle =>
    match s.reader with
    | some { events := event :: _, cursor := _ } =>
      if event.permission then []
      else if s.runtime.admits event then [(scopeForRoomEvent event, event.sequence)] else []
    | _ => []
  | _ => []

/-- The instruction whose failure a step publishes. -/
def settledBy : RuntimeStep → List (String × ℕ)
  | .settling index (.publish published) =>
    s.settlers[index]?.elim [] fun settler =>
      match settler.targets, settler.phase with
      | target :: _, .publishing events =>
        let request := (s.runtime.sessionRef? settler.scope).bind fun session =>
          session.humanTaskRequestForScope s.runtime.participantID events
        if published ∧ request.isSome then [(settler.scope, target)] else []
      | _, _ => []
  | _ => []

/-- The instructions that a step gives up. -/
def quarantinedBy : RuntimeStep → List (String × ℕ)
  | .turn index (.settle _) =>
    s.turns[index]?.elim [] fun turn =>
      match turn.phase with
      | .settling (settlement :: _) => s.quarantines turn settlement
      | _ => []
  | _ => []

/-- The Harness consumed an instruction. -/
def Acknowledged (scope : String) (target : ℕ) : Prop :=
  ∃ delivery, HarnessEvent.acknowledged delivery ∈ s.history ∧
    delivery.scope = scope ∧ delivery.target = target

end RuntimeRun

/-- What a step adds to the record of a run. -/
structure Recorded (s s' : RuntimeRun) (step : RuntimeStep) : Prop where
  history : s'.history = s.history ++ s.harnessEventsBy step
  accepted : s'.accepted = s.accepted ++ s.acceptedBy step
  settled : s'.settled = s.settled ++ s.settledBy step
  quarantined : s'.quarantined = s.quarantined ++ s.quarantinedBy step

namespace Recorded

variable {s s' : RuntimeRun} {step : RuntimeStep}

lemma of_nothing (hhistory : s.harnessEventsBy step = []) (haccepted : s.acceptedBy step = [])
    (hsettled : s.settledBy step = []) (hquarantined : s.quarantinedBy step = [])
    (h : s'.history = s.history ∧ s'.accepted = s.accepted ∧ s'.settled = s.settled ∧
      s'.quarantined = s.quarantined) : Recorded s s' step := by
  obtain ⟨h₁, h₂, h₃, h₄⟩ := h
  constructor
  · rw [h₁, hhistory, List.append_nil]
  · rw [h₂, haccepted, List.append_nil]
  · rw [h₃, hsettled, List.append_nil]
  · rw [h₄, hquarantined, List.append_nil]

end Recorded

/-! ## Turns -/

/-- How a turn goes on. -/
inductive TurnAdvance (s : RuntimeRun) (turn : TurnRun) : TurnStep → TurnPhase → Prop
  | adopts {context : FrozenContext} (hphase : turn.phase = .admitting)
      (hscope : turn.scope ≠ roomScope)
      (hcontext : s.runtime.contextFor? turn.scope turn.target = some context) :
      TurnAdvance s turn .adoptionLookUp (.adopting context.after)
  | admits {step : TurnStep}
      (hphase : turn.phase = .admitting ∨ ∃ after, turn.phase = .adopting after) :
      TurnAdvance s turn step .admitting
  | admitted {generation : ℕ} (hphase : turn.phase = .admitting) :
      TurnAdvance s turn (.admitted generation) (.observing generation)
  | refused {failure : TurnFailure} (hphase : turn.phase = .admitting) :
      TurnAdvance s turn (.refused failure) (.settling failure.settlement)
  | observed {generation : ℕ} (hphase : turn.phase = .observing generation) :
      TurnAdvance s turn .observe (.freezing generation)
  | reads {generation : ℕ} {context : FrozenContext} (hphase : turn.phase = .freezing generation)
      (hcontext : s.runtime.contextFor? turn.scope turn.target = some context) :
      TurnAdvance s turn .lookUp (.reading generation context.after)
  | found {generation : ℕ} {context : FrozenContext} (hphase : turn.phase = .freezing generation)
      (hcontext : s.runtime.contextFor? turn.scope turn.target = some context) :
      TurnAdvance s turn .lookUp (.rendered generation context)
  | recovered {generation after : ℕ} {history : Option (List RoomEvent)} {context : FrozenContext}
      (hphase : turn.phase = .reading generation after)
      (hcontext : s.runtime.recovered? turn.scope turn.target after history = some context) :
      TurnAdvance s turn (.recover history) (.rendered generation context)
  | unavailable {step : TurnStep}
      (hphase : (∃ generation, turn.phase = .freezing generation) ∨
        ∃ generation after, turn.phase = .reading generation after) :
      TurnAdvance s turn step (.settling [.failInPass, .scheduleRetry])
  | dispatched {generation : ℕ} {context : FrozenContext}
      (hphase : turn.phase = .rendered generation context) :
      TurnAdvance s turn (.respond true) (.running generation context)
  | unsent {generation : ℕ} {context : FrozenContext}
      (hphase : turn.phase = .rendered generation context) :
      TurnAdvance s turn (.respond false) (.settling [.failInPass])
  | returned {generation : ℕ} {context : FrozenContext} {outcome : TurnOutcome}
      (hphase : turn.phase = .running generation context) :
      TurnAdvance s turn (.returned outcome)
        (.settling (s.afterReturn turn generation context outcome))
  | settles {settlement : Settlement} {todo : List Settlement} {history : Option (List RoomEvent)}
      (hphase : turn.phase = .settling (settlement :: todo)) :
      TurnAdvance s turn (.settle history)
        (.settling (s.settleTurn turn todo history settlement).2)

/-- The turns after a step. -/
inductive TurnsChange (s : RuntimeRun) (step : RuntimeStep) (s' : RuntimeRun) : Prop
  | kept (hturns : s'.turns = s.turns) (hlanes : s.runtime.KeepsLanes s'.runtime)
  | advanced {index : ℕ} {turn : TurnRun} {turnStep : TurnStep} {phase : TurnPhase}
      (hstep : step = .turn index turnStep) (hturn : s.turns[index]? = some turn)
      (hadvance : TurnAdvance s turn turnStep phase)
      (hturns : s'.turns = s.turns.set index { turn with phase })
      (hlanes : s.runtime.KeepsLanes s'.runtime)
  | finished {index : ℕ} {turn : TurnRun} (hstep : step = .turn index .finish)
      (hturn : s.turns[index]? = some turn) (hphase : turn.phase = .settling [])
      (hturns : s'.turns = s.turns.eraseIdx index)
      (hruntime : s'.runtime = s.runtime.finishTurnLane turn.scope turn.target)
  | started {index : ℕ} {scheduler : Scheduler} {scope : String} {target : ℕ}
      {candidates : List (String × ℕ)} (hstep : step = .launch index false)
      (hscheduler : s.schedulers[index]? = some scheduler)
      (hcandidates : scheduler.candidates = (scope, target) :: candidates)
      (hgranted : s.runtime.turnLaneResult scope = .granted)
      (hturns : s'.turns = s.turns ++ [{ scope, target, phase := .admitting }])
      (hruntime : s'.runtime = s.runtime.beginTurnLane scope target)

/-! ## The other goroutines -/

/-- How a steer control goes on. -/
inductive SteerAdvance (s : RuntimeRun) (steer : SteerRun) : SteerStep → SteerPhase → Prop
  | reads {context : FrozenContext} (hphase : steer.phase = .marked)
      (hcontext : s.runtime.contextFor? steer.scope steer.instruction = some context) :
      SteerAdvance s steer .lookUp (.reading context.after)
  | found {context : FrozenContext} (hphase : steer.phase = .marked)
      (hcontext : s.runtime.contextFor? steer.scope steer.instruction = some context) :
      SteerAdvance s steer .lookUp (.prepared context)
  | recovered {after : ℕ} {history : Option (List RoomEvent)} {context : FrozenContext}
      (hphase : steer.phase = .reading after)
      (hcontext : s.runtime.recovered? steer.scope steer.instruction after history = some context) :
      SteerAdvance s steer (.recover history) (.prepared context)
  | reached {context : FrozenContext} {generation : ℕ} (hphase : steer.phase = .prepared context)
      (hexecutes : s.executesOn? steer.scope steer.turn = some generation) :
      SteerAdvance s steer .reach .reached

/-- The steer controls after a step. -/
inductive SteersChange (s : RuntimeRun) (step : RuntimeStep) (s' : RuntimeRun) : Prop
  | kept (hsteers : s'.steers = s.steers)
  | started {control : SteerControl} {session : LogicalSession} (hstep : step = .steer control)
      (hsession :
        s.runtime.sessionRef? (taskScopeForRequestID control.taskRequestID) = some session)
      (hpromotion : session.steerPromotion control.turnSequence control.steerInstructionSequence ≠
        .missing)
      (hsteers : s'.steers = s.steers ++
        [{ scope := taskScopeForRequestID control.taskRequestID, turn := control.turnSequence
           instruction := control.steerInstructionSequence, phase := .marked }])
  | advanced {index : ℕ} {steer : SteerRun} {steerStep : SteerStep} {phase : SteerPhase}
      (hstep : step = .steering index steerStep) (hsteer : s.steers[index]? = some steer)
      (hadvance : SteerAdvance s steer steerStep phase)
      (hsteers : s'.steers = s.steers.set index { steer with phase })
  | recorded {index generation : ℕ} {steer : SteerRun}
      (hstep : step = .steering index (.record generation)) (hsteer : s.steers[index]? = some steer)
      (hphase : steer.phase = .reached) (hsteers : s'.steers = s.steers.eraseIdx index)
      (hruntime : s'.runtime = s.runtime.acknowledgeHarnessDelivery steer.scope steer.instruction
        steer.instruction generation)
  | refused {index : ℕ} {steer : SteerRun} {cancelled : Bool}
      (hstep : step = .steering index (.refuse cancelled)) (hsteer : s.steers[index]? = some steer)
      (hphase : steer.phase ≠ .reached) (hsteers : s'.steers = s.steers.eraseIdx index)

section

variable {s s' : RuntimeRun} {step : RuntimeStep}

/-- A turn was there before a step, or has begun, or has gone on. -/
lemma TurnsChange.mem_cases (h : TurnsChange s step s') {turn : TurnRun} (hmem : turn ∈ s'.turns) :
    turn ∈ s.turns ∨ turn.phase = .admitting ∨ ∃ index moved turnStep phase,
      step = .turn index turnStep ∧ s.turns[index]? = some moved ∧
        TurnAdvance s moved turnStep phase ∧ turn = { moved with phase } := by
  cases h with
  | kept hturns => exact Or.inl (hturns ▸ hmem)
  | finished _ _ _ hturns => exact Or.inl (List.mem_of_mem_eraseIdx (hturns ▸ hmem))
  | started _ _ _ _ hturns =>
    rw [hturns, List.mem_append, List.mem_singleton] at hmem
    exact hmem.imp_right fun hnew => Or.inl (congrArg TurnRun.phase hnew)
  | advanced hstep hturn hadvance hturns =>
    rw [hturns] at hmem
    exact (List.mem_or_eq_of_mem_set hmem).imp_right fun hnew =>
      Or.inr ⟨_, _, _, _, hstep, hturn, hadvance, hnew⟩

lemma SteersChange.mem_cases (h : SteersChange s step s') {steer : SteerRun}
    (hmem : steer ∈ s'.steers) :
    steer ∈ s.steers ∨ steer.phase = .marked ∨ ∃ index moved steerStep phase,
      step = .steering index steerStep ∧ s.steers[index]? = some moved ∧
        SteerAdvance s moved steerStep phase ∧ steer = { moved with phase } := by
  cases h with
  | kept hsteers => exact Or.inl (hsteers ▸ hmem)
  | recorded _ _ _ hsteers | refused _ _ _ hsteers =>
    exact Or.inl (List.mem_of_mem_eraseIdx (hsteers ▸ hmem))
  | started _ _ _ hsteers =>
    rw [hsteers, List.mem_append, List.mem_singleton] at hmem
    exact hmem.imp_right fun hnew => Or.inl (congrArg SteerRun.phase hnew)
  | advanced hstep hsteer hadvance hsteers =>
    rw [hsteers] at hmem
    exact (List.mem_or_eq_of_mem_set hmem).imp_right fun hnew =>
      Or.inr ⟨_, _, _, _, hstep, hsteer, hadvance, hnew⟩

end

/-- The settlements of lost Tasks after a step. -/
inductive SettlersChange (s : RuntimeRun) (step : RuntimeStep) (s' : RuntimeRun) : Prop
  | kept (hsettlers : s'.settlers = s.settlers)
  | started {scope : String} {session : LogicalSession} (hstep : step = .settle scope)
      (hsession : s.runtime.sessionRef? scope = some session)
      (hsettlers : s'.settlers = s.settlers ++ [{ scope, targets := session.pendingAddressed }])
  | advanced {index : ℕ} {settler after : Settler} {settlerStep : SettlerStep}
      (hstep : step = .settling index settlerStep) (hsettler : s.settlers[index]? = some settler)
      (hsettlers : s'.settlers = s.settlers.set index after) (hscope : after.scope = settler.scope)
      (hacking : after.phase = .acking → ∃ target targets, after.targets = target :: targets ∧
        s.settledBy step = [(settler.scope, target)])
      (hreading : ∀ start, after.phase = .reading start → ∃ target targets context,
        after.targets = target :: targets ∧
          s.contextReadBy? step = some (settler.scope, target) ∧
          s.runtime.contextFor? settler.scope target = some context ∧ start = context.after)
  | ended {index : ℕ} (hsettlers : s'.settlers = s.settlers.eraseIdx index)

/-- The schedulers after a step, and the turns they started. -/
inductive SchedulersChange (s : RuntimeRun) (step : RuntimeStep) (s' : RuntimeRun) : Prop
  | kept (hschedulers : s'.schedulers = s.schedulers) (hstarts : s'.starts = s.starts)
  | computed {newPass preserveRetryDelay : Bool} {candidates : List (String × ℕ)}
      (hstep : step = .schedule newPass preserveRetryDelay)
      (hschedulers : s'.schedulers = s.schedulers ++
        [{ candidates, id := s.schedulerCount, computedAt := s.stepCount }])
      (hstarts : s'.starts = s.starts)
  | tried {index : ℕ} {scheduler : Scheduler} {candidates : List (String × ℕ)}
      (hscheduler : s.schedulers[index]? = some scheduler)
      (hschedulers : s'.schedulers = s.schedulers.set index { scheduler with candidates })
      (hstarts : s'.starts = s.starts)
  | ended {index : ℕ} (hschedulers : s'.schedulers = s.schedulers.eraseIdx index)
      (hstarts : s'.starts = s.starts)
  | started {index : ℕ} {scheduler : Scheduler} {scope : String} {target : ℕ}
      {candidates : List (String × ℕ)} (hstep : step = .launch index false)
      (hscheduler : s.schedulers[index]? = some scheduler)
      (hcandidates : scheduler.candidates = (scope, target) :: candidates)
      (hgranted : s.runtime.turnLaneResult scope = .granted)
      (hschedulers : s'.schedulers =
        (s.start index { scheduler with candidates } scope target).schedulers)
      (hstarts : s'.starts = s.starts ++
        [{ scheduler := scheduler.id, computedAt := scheduler.computedAt, scope, target }])

/-- The reader of Room events after a step. -/
inductive ReaderChange (s : RuntimeRun) (step : RuntimeStep) (s' : RuntimeRun) : Prop
  | kept (hstep : ∀ reading, step ≠ .reader reading) (hreader : s'.reader = s.reader)
      (hreceived : s'.received = s.received) (hcursor : s'.runtime.cursor = s.runtime.cursor)
  | received {envelope : RoomEnvelope} (hidle : s.reader = none)
      (hreader : s'.reader = some
        { events := envelope.events.filter fun event => s.runtime.cursor < event.sequence
          cursor := envelope.cursor })
      (hreceived : s'.received = s.received) (hcursor : s'.runtime.cursor = s.runtime.cursor)
  | handled {event : RoomEvent} {events : List RoomEvent} {cursor : ℕ}
      (hstep : step = .reader .handle)
      (hbefore : s.reader = some { events := event :: events, cursor })
      (hreader : s'.reader = some { events, cursor }) (hreceived : s'.received = event.sequence)
      (hcursor : s'.runtime.cursor = s.runtime.cursor)
  | advanced {cursor : ℕ} (hbefore : s.reader = some { events := [], cursor })
      (hreader : s'.reader = none) (hreceived : s'.received = s.received)
      (hcursor : s'.runtime.cursor = max s.runtime.cursor cursor)
  | rejoined {participantID : String} {cursor : ℕ}
      (hstep : step = .reader (.rejoin participantID cursor))
      (hidle : s.reader = none) (hreader : s'.reader = none) (hreceived : s'.received = s.received)
      (hcursor : s'.runtime.cursor = cursor)

/-- Everything that a step does, apart from the ledgers. -/
structure StepOutcome (s : RuntimeRun) (step : RuntimeStep) (s' : RuntimeRun) : Prop where
  turns : TurnsChange s step s'
  steers : SteersChange s step s'
  settlers : SettlersChange s step s'
  schedulers : SchedulersChange s step s'
  reader : ReaderChange s step s'
  recorded : Recorded s s' step
  released : ∀ scope released, s'.runtime.releasedTaskScopes.get? scope = some released →
    s.runtime.releasedTaskScopes.get? scope = some released ∨
      ∃ retained session, step = .reclaim scope retained ∧
        s.runtime.sessionRef? scope = some session ∧ session.Resumes released

namespace StepOutcome

variable {s s' : RuntimeRun} {step : RuntimeStep}

lemma of_withRuntime {runtime : ResidentRuntime} (hkeeps : s.runtime.Keeps runtime)
    (hreading : ∀ reading, step ≠ .reader reading) (hhistory : s.harnessEventsBy step = [])
    (haccepted : s.acceptedBy step = [])
    (hsettled : s.settledBy step = []) (hquarantined : s.quarantinedBy step = []) :
    StepOutcome s step (s.withRuntime runtime) where
  turns := .kept rfl hkeeps.toKeepsLanes
  steers := .kept rfl
  settlers := .kept rfl
  schedulers := .kept rfl rfl
  reader := .kept hreading rfl rfl hkeeps.cursor
  recorded := .of_nothing hhistory haccepted hsettled hquarantined ⟨rfl, rfl, rfl, rfl⟩
  released _ _ hsome := Or.inl (hkeeps.released _ _ hsome)

lemma withStepCount (h : StepOutcome s step s') (stepCount : ℕ) :
    StepOutcome s step { s' with stepCount } := by
  refine ⟨?_, ?_, ?_, ?_, ?_, ?_, h.released⟩
  · cases h.turns with
    | kept hturns hlanes => exact .kept hturns hlanes
    | advanced hstep hturn hadvance hturns hlanes =>
      exact .advanced hstep hturn hadvance hturns hlanes
    | finished hstep hturn hphase hturns hruntime =>
      exact .finished hstep hturn hphase hturns hruntime
    | started hstep hscheduler hcandidates hgranted hturns hruntime =>
      exact .started hstep hscheduler hcandidates hgranted hturns hruntime
  · cases h.steers with
    | kept hsteers => exact .kept hsteers
    | started hstep hsession hpromotion hsteers =>
      exact .started hstep hsession hpromotion hsteers
    | advanced hstep hsteer hadvance hsteers => exact .advanced hstep hsteer hadvance hsteers
    | recorded hstep hsteer hphase hsteers hruntime =>
      exact .recorded hstep hsteer hphase hsteers hruntime
    | refused hstep hsteer hphase hsteers => exact .refused hstep hsteer hphase hsteers
  · cases h.settlers with
    | kept hsettlers => exact .kept hsettlers
    | started hstep hsession hsettlers => exact .started hstep hsession hsettlers
    | advanced hstep hsettler hsettlers hscope hacking hreading =>
      exact .advanced hstep hsettler hsettlers hscope hacking hreading
    | ended hsettlers => exact .ended hsettlers
  · cases h.schedulers with
    | kept hschedulers hstarts => exact .kept hschedulers hstarts
    | computed hstep hschedulers hstarts => exact .computed hstep hschedulers hstarts
    | tried hscheduler hschedulers hstarts => exact .tried hscheduler hschedulers hstarts
    | ended hschedulers hstarts => exact .ended hschedulers hstarts
    | started hstep hscheduler hcandidates hgranted hschedulers hstarts =>
      exact .started hstep hscheduler hcandidates hgranted hschedulers hstarts
  · cases h.reader with
    | kept hstep hreader hreceived hcursor => exact .kept hstep hreader hreceived hcursor
    | received hidle hreader hreceived hcursor => exact .received hidle hreader hreceived hcursor
    | handled hstep hbefore hreader hreceived hcursor =>
      exact .handled hstep hbefore hreader hreceived hcursor
    | advanced hbefore hreader hreceived hcursor =>
      exact .advanced hbefore hreader hreceived hcursor
    | rejoined hstep hidle hreader hreceived hcursor =>
      exact .rejoined hstep hidle hreader hreceived hcursor
  · exact ⟨h.recorded.history, h.recorded.accepted, h.recorded.settled, h.recorded.quarantined⟩

lemma stops (h : StepOutcome s step s') : (s.runtime.stopped = true → s'.runtime.stopped = true) ∧
      (s.runtime.admissionsClosed = true → s'.runtime.admissionsClosed = true) := by
  cases h.turns with
  | kept _ hlanes | advanced _ _ _ _ hlanes => exact ⟨hlanes.stopped, hlanes.admissionsClosed⟩
  | finished _ _ _ _ hruntime =>
    rw [hruntime, ResidentRuntime.finishTurnLane]
    split
    · split <;> exact ⟨id, id⟩
    · exact ⟨id, id⟩
  | started _ _ _ _ _ hruntime =>
    rw [hruntime]
    exact ⟨id, id⟩

end StepOutcome

namespace RuntimeRun

variable {wireLength : RoomEvent → ℕ} {s s' : RuntimeRun} {step : RuntimeStep} {turn : TurnRun}

lemma keeps_settleTurn {todo : List Settlement}
    {history : Option (List RoomEvent)} (settlement : Settlement) :
    s.runtime.Keeps (s.settleTurn turn todo history settlement).1 := by
  cases settlement with
  | lookUp | recover after =>
    rw [settleTurn]
    split
    · exact .refl _
    · exact .updateSession _
  | checkStopped | checkPending => exact .refl _
  | acknowledge through generation =>
    rw [settleTurn]
    dsimp only
    exact ResidentRuntime.Keeps.acknowledgeHarnessDelivery through generation
  | clearRetry => exact ⟨⟨rfl, rfl, id, id⟩, rfl, fun _ _ => id⟩
  | failInPass =>
    rw [settleTurn]
    dsimp only
    exact ResidentRuntime.Keeps.markTurnFailedInPass
  | scheduleRetry =>
    rw [settleTurn]
    dsimp only
    exact ResidentRuntime.Keeps.scheduleTurnRetry
  | closeRecovery =>
    rw [settleTurn]
    dsimp only
    exact ResidentRuntime.Keeps.closeTurnRecovery
  | quarantine controlUnavailable =>
    rw [settleTurn]
    split
    · exact ResidentRuntime.Keeps.markTaskAttentionAndQuarantine controlUnavailable
    · exact .refl _
  | ackPending =>
    rw [settleTurn]
    dsimp only
    exact ResidentRuntime.Keeps.ackPending

lemma keeps_finishTurnLane {r : ResidentRuntime} {scope : String} {target : ℕ} :
    (r.finishTurnLane scope target).cursor = r.cursor ∧
      (r.finishTurnLane scope target).releasedTaskScopes = r.releasedTaskScopes := by
  unfold ResidentRuntime.finishTurnLane
  split
  · split <;> exact ⟨rfl, rfl⟩
  · exact ⟨rfl, rfl⟩

variable {index : ℕ} {runtime : ResidentRuntime}

lemma outcome_of_turn {turnStep : TurnStep} {phase : TurnPhase}
    (hturn : s.turns[index]? = some turn)
    (hadvance : TurnAdvance s turn turnStep phase) (hkeeps : s.runtime.Keeps runtime)
    (hhistory : s.harnessEventsBy (.turn index turnStep) = [])
    (hquarantined : s.quarantinedBy (.turn index turnStep) = []) :
    StepOutcome s (.turn index turnStep)
      ((s.withTurn index { turn with phase }).withRuntime runtime) where
  turns := .advanced rfl hturn hadvance rfl hkeeps.toKeepsLanes
  steers := .kept rfl
  settlers := .kept rfl
  schedulers := .kept rfl rfl
  reader := .kept (fun _ => RuntimeStep.noConfusion) rfl rfl hkeeps.cursor
  recorded := .of_nothing hhistory rfl rfl hquarantined ⟨rfl, rfl, rfl, rfl⟩
  released _ _ hsome := Or.inl (hkeeps.released _ _ hsome)

/-- What a step of a turn does. -/
lemma outcome_turn {turnStep : TurnStep}
    (hturn : s.turns[index]? = some turn) (h : s.turnNext? index turn turnStep = some s') :
    StepOutcome s (.turn index turnStep) s' := by
  have hstep : ∀ turnStep reading, RuntimeStep.turn index turnStep ≠ .reader reading :=
    fun _ _ => RuntimeStep.noConfusion
  unfold turnNext? at h
  dsimp only at h
  split at h
  next hphase =>
    have hhistory : s.harnessEventsBy (.turn index .adoptionLookUp) = [] := by
      simp [harnessEventsBy, hturn]
    have hquarantined : s.quarantinedBy (.turn index .adoptionLookUp) = [] := rfl
    split at h
    · cases h
    next hscope =>
      split at h
      · obtain rfl := Option.some.inj h
        exact .of_withRuntime (.refl _) (hstep _) hhistory rfl rfl hquarantined
      next context hcontext =>
        obtain rfl := Option.some.inj h
        split
        · exact outcome_of_turn hturn (.adopts hphase hscope hcontext) (.updateSession _) hhistory
            hquarantined
        · exact outcome_of_turn hturn (.admits (Or.inl hphase)) (.updateSession _) hhistory
            hquarantined
  next after history hphase =>
    have hhistory : s.harnessEventsBy (.turn index (.adoptionRecover history)) = [] := by
      simp [harnessEventsBy, hturn]
    have hadvance : TurnAdvance s turn (.adoptionRecover history) .admitting :=
      .admits (Or.inr ⟨after, hphase⟩)
    split at h
    · obtain rfl := Option.some.inj h
      exact outcome_of_turn hturn hadvance (.refl _) hhistory rfl
    · obtain rfl := Option.some.inj h
      exact outcome_of_turn hturn hadvance (.updateSession _) hhistory rfl
  next generation hphase =>
    obtain rfl := Option.some.inj h
    exact outcome_of_turn hturn (.admitted hphase) (.refl _)
      (by simp [harnessEventsBy, hturn]) rfl
  next failure hphase =>
    obtain rfl := Option.some.inj h
    exact outcome_of_turn hturn (.refused hphase) (.refl _)
      (by simp [harnessEventsBy, hturn]) rfl
  next generation hphase =>
    obtain rfl := Option.some.inj h
    exact outcome_of_turn hturn (.observed hphase) (.updateSession _)
      (by simp [harnessEventsBy, hturn]) rfl
  next generation hphase =>
    have hhistory : s.harnessEventsBy (.turn index .lookUp) = [] := by
      simp [harnessEventsBy, hturn]
    split at h
    · obtain rfl := Option.some.inj h
      exact outcome_of_turn hturn (.unavailable (Or.inl ⟨generation, hphase⟩)) (.refl _) hhistory
        rfl
    next context hcontext =>
      obtain rfl := Option.some.inj h
      split
      · exact outcome_of_turn hturn (.reads hphase hcontext) (.updateSession _) hhistory rfl
      · exact outcome_of_turn hturn (.found hphase hcontext) (.updateSession _) hhistory rfl
  next generation after history hphase =>
    have hhistory : s.harnessEventsBy (.turn index (.recover history)) = [] := by
      simp [harnessEventsBy, hturn]
    split at h
    · obtain rfl := Option.some.inj h
      exact outcome_of_turn hturn (.unavailable (Or.inr ⟨generation, after, hphase⟩)) (.refl _)
        hhistory rfl
    next context hcontext =>
      obtain rfl := Option.some.inj h
      exact outcome_of_turn hturn (.recovered hphase hcontext) (.updateSession _) hhistory rfl
  next generation context accepted hphase =>
    split at h
    next haccepted =>
      obtain rfl := Option.some.inj h
      rw [haccepted]
      refine ⟨.advanced rfl hturn (.dispatched hphase) rfl (ResidentRuntime.Keeps.refl _).1,
        .kept rfl, .kept rfl, .kept rfl rfl, .kept (hstep _) rfl rfl rfl, ?_, fun _ _ => Or.inl⟩
      refine ⟨?_, (List.append_nil _).symm, (List.append_nil _).symm, (List.append_nil _).symm⟩
      simp [harnessEventsBy, hturn, hphase]
    next haccepted =>
      obtain rfl := Option.some.inj h
      rw [eq_false_of_ne_true haccepted]
      exact outcome_of_turn hturn (.unsent hphase) (.refl _)
        (by simp [harnessEventsBy, hturn]) rfl
  next generation context outcome hphase =>
    obtain rfl := Option.some.inj h
    have hkeeps : s.runtime.Keeps (s.runtime.consumeTurnInterrupted turn.scope turn.target) :=
      .consumeTurnInterrupted
    refine ⟨.advanced rfl hturn (.returned hphase) rfl hkeeps.toKeepsLanes,
      .kept rfl, .kept rfl, .kept rfl rfl, .kept (hstep _) rfl rfl hkeeps.cursor, ?_,
      fun _ _ hsome => Or.inl (hkeeps.released _ _ hsome)⟩
    refine ⟨?_, (List.append_nil _).symm, (List.append_nil _).symm, (List.append_nil _).symm⟩
    simp only [harnessEventsBy, hturn, Option.elim_some, hphase]
    split
    · rfl
    · rw [List.append_nil]
  next settlement todo history hphase =>
    obtain rfl := Option.some.inj h
    have hkeeps : s.runtime.Keeps (s.settleTurn turn todo history settlement).1 :=
      keeps_settleTurn settlement
    refine ⟨.advanced rfl hturn (.settles hphase) rfl hkeeps.toKeepsLanes, .kept rfl, .kept rfl,
      .kept rfl rfl, .kept (hstep _) rfl rfl hkeeps.cursor, ?_,
      fun _ _ hsome => Or.inl (hkeeps.released _ _ hsome)⟩
    refine ⟨?_, (List.append_nil _).symm, (List.append_nil _).symm, ?_⟩
    · simp [harnessEventsBy, hturn, withTurn, withRuntime]
    · simp [quarantinedBy, hturn, hphase]
  next hphase =>
    obtain rfl := Option.some.inj h
    refine ⟨.finished rfl hturn hphase rfl rfl, .kept rfl, .kept rfl, .kept rfl rfl,
      .kept (hstep _) rfl rfl keeps_finishTurnLane.1, ?_, fun scope released hsome => Or.inl ?_⟩
    · exact .of_nothing (by simp [harnessEventsBy, hturn]) rfl rfl rfl ⟨rfl, rfl, rfl, rfl⟩
    · rw [← hsome]
      exact congrArg (·.get? scope) keeps_finishTurnLane.2.symm
  next => cases h

lemma outcome_launch {bound : Bool} (h : s.launch? index bound = some s') :
    StepOutcome s (.launch index bound) s' := by
  have hstep : ∀ bound reading, RuntimeStep.launch index bound ≠ .reader reading :=
    fun _ _ => RuntimeStep.noConfusion
  have hkept : s.runtime.KeepsLanes s.runtime := (ResidentRuntime.Keeps.refl _).1
  rw [launch?] at h
  split at h
  · cases h
  next scheduler hscheduler =>
    split at h
    · obtain rfl := Option.some.inj h
      exact ⟨.kept rfl hkept, .kept rfl, .kept rfl, .ended rfl rfl, .kept (hstep _) rfl rfl rfl,
        .of_nothing rfl rfl rfl rfl ⟨rfl, rfl, rfl, rfl⟩, fun _ _ => Or.inl⟩
    next scope target candidates hcandidates =>
      dsimp only at h
      split at h
      · obtain rfl := Option.some.inj h
        exact ⟨.kept rfl hkept, .kept rfl, .kept rfl, .tried hscheduler rfl rfl,
          .kept (hstep _) rfl rfl rfl, .of_nothing rfl rfl rfl rfl ⟨rfl, rfl, rfl, rfl⟩,
          fun _ _ => Or.inl⟩
      next hbound =>
        rw [eq_false_of_ne_true hbound]
        split at h
        · obtain rfl := Option.some.inj h
          exact ⟨.kept rfl hkept, .kept rfl, .kept rfl, .ended rfl rfl, .kept (hstep _) rfl rfl rfl,
            .of_nothing rfl rfl rfl rfl ⟨rfl, rfl, rfl, rfl⟩, fun _ _ => Or.inl⟩
        · obtain rfl := Option.some.inj h
          exact ⟨.kept rfl hkept, .kept rfl, .kept rfl, .tried hscheduler rfl rfl,
            .kept (hstep _) rfl rfl rfl, .of_nothing rfl rfl rfl rfl ⟨rfl, rfl, rfl, rfl⟩,
            fun _ _ => Or.inl⟩
        next hgranted =>
          obtain rfl := Option.some.inj h
          exact ⟨.started rfl hscheduler hcandidates hgranted rfl rfl, .kept rfl, .kept rfl,
            .started rfl hscheduler hcandidates hgranted rfl rfl, .kept (hstep _) rfl rfl rfl,
            .of_nothing rfl rfl rfl rfl ⟨rfl, rfl, rfl, rfl⟩, fun _ _ => Or.inl⟩

lemma outcome_reader {reading : ReaderStep} (h : s.readerNext? wireLength reading = some s') :
    StepOutcome s (.reader reading) s' := by
  have hkept : s.runtime.KeepsLanes s.runtime := (ResidentRuntime.Keeps.refl _).1
  cases reading with
  | receive envelope =>
    rw [readerNext?] at h
    split at h
    · cases h
    next hidle =>
      obtain rfl := Option.some.inj h
      exact ⟨.kept rfl hkept, .kept rfl, .kept rfl, .kept rfl rfl,
        .received (Option.not_isSome_iff_eq_none.mp hidle) rfl rfl rfl,
        .of_nothing rfl rfl rfl rfl ⟨rfl, rfl, rfl, rfl⟩, fun _ _ => Or.inl⟩
  | rejoin participantID cursor =>
    rw [readerNext?] at h
    split at h
    · cases h
    next hidle =>
      obtain rfl := Option.some.inj h
      have hnone := Option.not_isSome_iff_eq_none.mp hidle
      exact ⟨.kept rfl ⟨rfl, rfl, id, id⟩, .kept rfl, .kept rfl, .kept rfl rfl,
        .rejoined rfl hnone hnone rfl rfl, .of_nothing rfl rfl rfl rfl ⟨rfl, rfl, rfl, rfl⟩,
        fun _ _ => Or.inl⟩
  | advance =>
    rw [readerNext?] at h
    split at h
    next cursor hreader =>
      obtain rfl := Option.some.inj h
      exact ⟨.kept rfl ⟨rfl, rfl, id, id⟩, .kept rfl, .kept rfl, .kept rfl rfl,
        .advanced hreader rfl rfl rfl, .of_nothing rfl rfl rfl rfl ⟨rfl, rfl, rfl, rfl⟩,
        fun _ _ => Or.inl⟩
    next => cases h
  | handle =>
    rw [readerNext?] at h
    split at h
    next event events cursor hreader =>
      dsimp only at h
      split at h
      next hpermission =>
        obtain rfl := Option.some.inj h
        exact ⟨.kept rfl hkept, .kept rfl, .kept rfl, .kept rfl rfl,
          .handled rfl hreader rfl rfl rfl,
          .of_nothing rfl (by simp [acceptedBy, hreader, hpermission]) rfl rfl ⟨rfl, rfl, rfl, rfl⟩,
          fun _ _ => Or.inl⟩
      next hpermission =>
        obtain rfl := Option.some.inj h
        have hkeeps : s.runtime.Keeps (s.runtime.acceptEvent wireLength event) :=
          .acceptEvent wireLength event
        refine ⟨.kept rfl hkeeps.toKeepsLanes, .kept rfl, .kept rfl, .kept rfl rfl,
          .handled rfl hreader rfl rfl hkeeps.cursor, ?_,
          fun _ _ hsome => Or.inl (hkeeps.released _ _ hsome)⟩
        refine ⟨(List.append_nil _).symm, ?_, (List.append_nil _).symm, (List.append_nil _).symm⟩
        simp only [acceptedBy, hreader, if_neg hpermission]
        split
        · rfl
        · rw [List.append_nil]
    next => cases h

lemma outcome_steerControl {control : SteerControl} :
    StepOutcome s (.steer control) (s.steerControl control) := by
  have hstep : ∀ reading, RuntimeStep.steer control ≠ .reader reading :=
    fun _ => RuntimeStep.noConfusion
  have hsame : StepOutcome s (.steer control) s := .of_withRuntime (.refl _) hstep rfl rfl rfl rfl
  rw [steerControl]
  dsimp only
  split
  · exact hsame
  next session hsession =>
    split
    · exact hsame
    · split
      · exact hsame
      next hsteers =>
        have hkeeps : ∀ after, s.runtime.Keeps (s.runtime.setSession
          (taskScopeForRequestID control.taskRequestID) after) := fun _ => .setSession _
        exact ⟨.kept rfl (hkeeps _).toKeepsLanes,
          .started rfl hsession (fun hmissing => hsteers (Or.inr (Or.inl hmissing))) rfl,
          .kept rfl, .kept rfl rfl, .kept hstep rfl rfl (hkeeps _).cursor,
          .of_nothing rfl rfl rfl rfl ⟨rfl, rfl, rfl, rfl⟩,
          fun _ _ hsome => Or.inl ((hkeeps _).released _ _ hsome)⟩

lemma outcome_of_steer {steer : SteerRun} {steerStep : SteerStep}
    {phase : SteerPhase} (hsteer : s.steers[index]? = some steer)
    (hadvance : SteerAdvance s steer steerStep phase) (hkeeps : s.runtime.Keeps runtime)
    (hhistory : s.harnessEventsBy (.steering index steerStep) = []) :
    StepOutcome s (.steering index steerStep)
      ((s.withSteer index { steer with phase }).withRuntime runtime) where
  turns := .kept rfl hkeeps.toKeepsLanes
  steers := .advanced rfl hsteer hadvance rfl
  settlers := .kept rfl
  schedulers := .kept rfl rfl
  reader := .kept (fun _ => RuntimeStep.noConfusion) rfl rfl hkeeps.cursor
  recorded := .of_nothing hhistory rfl rfl rfl ⟨rfl, rfl, rfl, rfl⟩
  released _ _ hsome := Or.inl (hkeeps.released _ _ hsome)

lemma outcome_steer {steer : SteerRun} {steerStep : SteerStep}
    (hsteer : s.steers[index]? = some steer) (h : s.steerNext? index steer steerStep = some s') :
    StepOutcome s (.steering index steerStep) s' := by
  have hstep : ∀ reading, RuntimeStep.steering index steerStep ≠ .reader reading :=
    fun _ => RuntimeStep.noConfusion
  unfold steerNext? at h
  dsimp only at h
  split at h
  next hphase =>
    obtain ⟨context, hcontext, rfl⟩ := Option.map_eq_some_iff.mp h
    split
    · exact outcome_of_steer hsteer (.reads hphase hcontext) (.updateSession _) rfl
    · exact outcome_of_steer hsteer (.found hphase hcontext) (.updateSession _) rfl
  next after history hphase =>
    obtain ⟨context, hcontext, rfl⟩ := Option.map_eq_some_iff.mp h
    exact outcome_of_steer hsteer (.recovered hphase hcontext) (.updateSession _) rfl
  next context hphase =>
    obtain ⟨generation, hexecutes, rfl⟩ := Option.map_eq_some_iff.mp h
    refine ⟨.kept rfl (ResidentRuntime.Keeps.refl _).1,
      .advanced rfl hsteer (.reached hphase hexecutes) rfl, .kept rfl, .kept rfl rfl,
      .kept hstep rfl rfl rfl, ?_, fun _ _ => Or.inl⟩
    refine ⟨?_, (List.append_nil _).symm, (List.append_nil _).symm, (List.append_nil _).symm⟩
    simp [harnessEventsBy, hsteer, hphase, hexecutes]
  next generation hphase =>
    obtain rfl := Option.some.inj h
    have hkeeps : s.runtime.Keeps (s.runtime.acknowledgeHarnessDelivery steer.scope
      steer.instruction steer.instruction generation) := .acknowledgeHarnessDelivery _ _
    exact ⟨.kept rfl hkeeps.toKeepsLanes, .recorded rfl hsteer hphase rfl rfl, .kept rfl,
      .kept rfl rfl, .kept hstep rfl rfl hkeeps.cursor,
      .of_nothing rfl rfl rfl rfl ⟨rfl, rfl, rfl, rfl⟩,
      fun _ _ hsome => Or.inl (hkeeps.released _ _ hsome)⟩
  next => cases h
  next cancelled hphase =>
    obtain rfl := Option.some.inj h
    have hkeeps : s.runtime.Keeps (if cancelled ∧ s.executes steer.scope steer.turn then
        s.runtime.markTurnInterrupted steer.scope steer.turn else s.runtime) := by
      split <;> exact ⟨⟨rfl, rfl, id, id⟩, rfl, fun _ _ => id⟩
    exact ⟨.kept rfl hkeeps.toKeepsLanes, .refused rfl hsteer (fun h => hphase h) rfl, .kept rfl,
      .kept rfl rfl, .kept hstep rfl rfl hkeeps.cursor,
      .of_nothing rfl rfl rfl rfl ⟨rfl, rfl, rfl, rfl⟩,
      fun _ _ hsome => Or.inl (hkeeps.released _ _ hsome)⟩
  next => cases h

variable {settlerStep : SettlerStep}

lemma outcome_of_settler {settler after : Settler} (hsettler : s.settlers[index]? = some settler)
    (hscope : after.scope = settler.scope) (hacking : after.phase ≠ .acking)
    (hreading : ∀ start, after.phase = .reading start → ∃ target targets context,
      after.targets = target :: targets ∧
        s.contextReadBy? (.settling index settlerStep) = some (settler.scope, target) ∧
        s.runtime.contextFor? settler.scope target = some context ∧ start = context.after)
    (hkeeps : s.runtime.Keeps runtime) (hsettled : s.settledBy (.settling index settlerStep) = []) :
    StepOutcome s (.settling index settlerStep)
      ((s.withSettler index after).withRuntime runtime) where
  turns := .kept rfl hkeeps.toKeepsLanes
  steers := .kept rfl
  settlers := .advanced rfl hsettler rfl hscope (fun h => absurd h hacking) hreading
  schedulers := .kept rfl rfl
  reader := .kept (fun _ => RuntimeStep.noConfusion) rfl rfl hkeeps.cursor
  recorded := .of_nothing rfl rfl hsettled rfl ⟨rfl, rfl, rfl, rfl⟩
  released _ _ hsome := Or.inl (hkeeps.released _ _ hsome)

lemma outcome_settler {settler : Settler} (hsettler : s.settlers[index]? = some settler)
    (h : s.settlerNext? index settler settlerStep = some s') :
    StepOutcome s (.settling index settlerStep) s' := by
  have hstep : ∀ reading, RuntimeStep.settling index settlerStep ≠ .reader reading :=
    fun _ => RuntimeStep.noConfusion
  unfold settlerNext? at h
  dsimp only at h
  split at h
  next =>
    obtain rfl := Option.some.inj h
    exact ⟨.kept rfl (ResidentRuntime.Keeps.refl _).1, .kept rfl, .ended rfl, .kept rfl rfl,
      .kept hstep rfl rfl rfl, .of_nothing rfl rfl rfl rfl ⟨rfl, rfl, rfl, rfl⟩, fun _ _ => Or.inl⟩
  next target targets htargets hnext =>
    split at h
    · obtain rfl := Option.some.inj h
      exact outcome_of_settler hsettler rfl SettlerPhase.noConfusion
        (fun _ => SettlerPhase.noConfusion) (.refl _) rfl
    next context hcontext =>
      obtain rfl := Option.some.inj h
      refine outcome_of_settler hsettler rfl ?_ (fun start hphase => ?_) (.updateSession _) rfl
      · dsimp only
        split <;> exact SettlerPhase.noConfusion
      · dsimp only at hphase
        split at hphase
        · refine ⟨_, _, context, rfl, ?_, hcontext, (SettlerPhase.reading.inj hphase).symm⟩
          simp [contextReadBy?, hsettler, htargets, hnext]
        · cases hphase
  next =>
    split at h
    · obtain rfl := Option.some.inj h
      exact outcome_of_settler hsettler rfl SettlerPhase.noConfusion
        (fun _ => SettlerPhase.noConfusion) (.refl _) rfl
    · obtain rfl := Option.some.inj h
      exact outcome_of_settler hsettler rfl SettlerPhase.noConfusion
        (fun _ => SettlerPhase.noConfusion) (.updateSession _) rfl
  next target targets events published htargets hphase =>
    split at h
    next hrequest =>
      obtain rfl := Option.some.inj h
      have hsettled : s.settledBy (.settling index (.publish published)) =
          [(settler.scope, target)] := by
        simp [settledBy, hsettler, htargets, hphase, hrequest]
      refine ⟨.kept rfl ⟨rfl, rfl, id, id⟩, .kept rfl,
        .advanced rfl hsettler rfl rfl (fun _ => ⟨target, targets, rfl, hsettled⟩)
          (fun _ => SettlerPhase.noConfusion),
        .kept rfl rfl,
        .kept hstep rfl rfl rfl, ?_, fun _ _ => Or.inl⟩
      refine ⟨(List.append_nil _).symm, (List.append_nil _).symm, ?_, (List.append_nil _).symm⟩
      rw [hsettled]
    next hrequest =>
      obtain rfl := Option.some.inj h
      refine outcome_of_settler hsettler rfl SettlerPhase.noConfusion
        (fun _ => SettlerPhase.noConfusion) (.refl _) ?_
      simp [settledBy, hsettler, htargets, hphase, hrequest]
  next =>
    obtain rfl := Option.some.inj h
    exact outcome_of_settler hsettler rfl SettlerPhase.noConfusion
        (fun _ => SettlerPhase.noConfusion) .ackPending rfl
  next => cases h

/-- What a step does. -/
lemma outcome_of_next (h : s.next? wireLength step = some s') : StepOutcome s step s' := by
  obtain ⟨after, heffect, rfl⟩ := RuntimeRun.exists_effect h
  refine StepOutcome.withStepCount ?_ _
  have hkept : s.runtime.KeepsLanes s.runtime := (ResidentRuntime.Keeps.refl _).1
  unfold effect? at heffect
  cases step with
  | reader reading => exact outcome_reader heffect
  | noteTerminal scope | clearActivity scope =>
    obtain rfl := Option.some.inj heffect
    exact .of_withRuntime ⟨⟨rfl, rfl, id, id⟩, rfl, fun _ _ => id⟩
      (fun _ => RuntimeStep.noConfusion) rfl rfl rfl rfl
  | reclaim scope retained =>
    dsimp only at heffect
    obtain ⟨hreclaimable, rfl⟩ := Option.of_guarded heffect
    refine ⟨.kept rfl (ResidentRuntime.keepsLanes_releaseTerminalTaskScope retained), .kept rfl,
      .kept rfl, .kept rfl rfl,
      .kept (fun _ => RuntimeStep.noConfusion) rfl rfl
        (ResidentRuntime.cursor_releaseTerminalTaskScope retained),
      .of_nothing rfl rfl rfl rfl ⟨rfl, rfl, rfl, rfl⟩, fun other released hsome => ?_⟩
    refine (ResidentRuntime.get?_releaseTerminalTaskScope hsome).imp id ?_
    rintro ⟨rfl, entry, hentry, hresumes⟩
    refine ⟨retained, entry.2, rfl, ?_, hresumes⟩
    have htask : other ≠ roomScope := by
      rintro rfl
      simp only [ResidentRuntime.reclaimableTaskScope, Bool.and_eq_true] at hreclaimable
      exact absurd hreclaimable.1.1.1.1 (by decide)
    rw [ResidentRuntime.sessionRef?, if_neg htask, hentry]
    rfl
  | retryDue scope target =>
    dsimp only at heffect
    split at heffect
    · obtain rfl := Option.some.inj heffect
      exact .of_withRuntime .takeTurnRetry (fun _ => RuntimeStep.noConfusion) rfl rfl rfl rfl
    · cases heffect
  | schedule newPass preserveRetryDelay =>
    dsimp only at heffect
    split at heffect
    · cases heffect
    · obtain rfl := Option.some.inj heffect
      have hkeeps : s.runtime.Keeps (s.schedule newPass preserveRetryDelay).runtime := by
        rw [schedule]
        dsimp only
        split <;> exact ⟨⟨rfl, rfl, id, id⟩, rfl, fun _ _ => id⟩
      exact ⟨.kept rfl hkeeps.toKeepsLanes, .kept rfl, .kept rfl, .computed rfl rfl rfl,
        .kept (fun _ => RuntimeStep.noConfusion) rfl rfl hkeeps.cursor,
        .of_nothing rfl rfl rfl rfl ⟨rfl, rfl, rfl, rfl⟩,
        fun _ _ hsome => Or.inl (hkeeps.released _ _ hsome)⟩
  | launch index bound => exact outcome_launch heffect
  | turn index turnStep =>
    obtain ⟨turn, hturn, hnext⟩ := Option.bind_eq_some_iff.mp heffect
    exact outcome_turn hturn hnext
  | interrupt scope turnSequence | sessionLost scope =>
    dsimp only at heffect
    split at heffect
    · obtain rfl := Option.some.inj heffect
      exact .of_withRuntime ⟨⟨rfl, rfl, id, id⟩, rfl, fun _ _ => id⟩
        (fun _ => RuntimeStep.noConfusion) rfl rfl rfl rfl
    · cases heffect
  | steer control =>
    obtain rfl := Option.some.inj heffect
    exact outcome_steerControl
  | steering index steerStep =>
    obtain ⟨steer, hsteer, hnext⟩ := Option.bind_eq_some_iff.mp heffect
    exact outcome_steer hsteer hnext
  | settle scope =>
    obtain ⟨session, hsession, rfl⟩ := Option.map_eq_some_iff.mp heffect
    exact ⟨.kept rfl hkept, .kept rfl, .started rfl hsession rfl, .kept rfl rfl,
      .kept (fun _ => RuntimeStep.noConfusion) rfl rfl rfl,
      .of_nothing rfl rfl rfl rfl ⟨rfl, rfl, rfl, rfl⟩, fun _ _ => Or.inl⟩
  | settling index settlerStep =>
    obtain ⟨settler, hsettler, hnext⟩ := Option.bind_eq_some_iff.mp heffect
    exact outcome_settler hsettler hnext
  | fence =>
    obtain rfl := Option.some.inj heffect
    exact .of_withRuntime ⟨⟨rfl, rfl, id, fun _ => rfl⟩, rfl, fun _ _ => id⟩
      (fun _ => RuntimeStep.noConfusion) rfl rfl rfl rfl
  | stop =>
    obtain rfl := Option.some.inj heffect
    exact .of_withRuntime ⟨⟨rfl, rfl, fun _ => rfl, fun _ => rfl⟩, rfl, fun _ _ => id⟩
      (fun _ => RuntimeStep.noConfusion) rfl rfl rfl rfl

end RuntimeRun

end Free4Chat
