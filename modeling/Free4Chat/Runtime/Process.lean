import Free4Chat.Runtime.Resident
import Free4Chat.Transition.Reachable

/-!
# The Goroutines of the Resident Runtime

The Runtime runs a reader of Room events, any number of schedulers, the turns in their lanes, steer
controls and the settlement of lost Tasks at once. Each step of this system is one critical section
of one of them, or an answer from outside: the Room, the Harness or its adapter. The answers are
arbitrary.

* `TurnRun`, `SteerRun`, `Settler` and `Scheduler`: the goroutines, each with what it does next.
* `RuntimeRun`: the Runtime, its goroutines, and the history of the run.
* `RuntimeRun.next?`: one step.
* `runtimeSystem`: the transition system of a Runtime that has joined a Room.
-/

namespace Free4Chat

/-! ## Goroutines -/

/-- What a context says when it is read: the start of its interval, and its events. -/
structure FrozenContext where
  after : ℕ
  events : List RoomEvent
deriving DecidableEq

/-- The highest sequence among the events of a context. -/
def FrozenContext.through (context : FrozenContext) : ℕ :=
  (context.events.map (·.sequence)).foldl max 0

/-- The critical sections by which a turn is settled. -/
inductive Settlement where
  | lookUp
  | recover (after : ℕ)
  -- Nothing more is done once the Runtime has stopped.
  | checkStopped
  | acknowledge (through generation : ℕ)
  | clearRetry
  | failInPass
  | scheduleRetry
  | closeRecovery
  -- Whether the instruction still waits is asked in a section of its own.
  | checkPending
  | quarantine (controlUnavailable : Bool)
  | ackPending
deriving DecidableEq

/-- How far `runTurn` has come. -/
inductive TurnPhase where
  | admitting
  -- The history is read to see whether a prepared session may be adopted.
  | adopting (after : ℕ)
  | observing (generation : ℕ)
  | freezing (generation : ℕ)
  | reading (generation after : ℕ)
  | rendered (generation : ℕ) (context : FrozenContext)
  | running (generation : ℕ) (context : FrozenContext)
  | settling (todo : List Settlement)
deriving DecidableEq

/-- A turn of a scope, from the grant of its lane until it gives the lane back. -/
structure TurnRun where
  scope : String
  target : ℕ
  phase : TurnPhase
deriving DecidableEq

/-- How the attempt of a turn failed. -/
structure TurnFailure where
  retryable : Bool
  -- The instruction did not reach the Harness.
  preHarness : Bool
  controlUnavailable : Bool
deriving DecidableEq

/-- What the call of the Harness returned. -/
inductive TurnOutcome where
  | busy
  | terminalFailure
  | failed (failure : TurnFailure)
  | succeeded
deriving DecidableEq

/-- A steer control. The Room appends the instruction after the turn that it steers. -/
structure SteerControl where
  taskRequestID : String
  turnSequence : ℕ
  steerInstructionSequence : ℕ
  turn_lt : turnSequence < steerInstructionSequence
deriving DecidableEq

/-- How far `deliverNativeSteer` has come. -/
inductive SteerPhase where
  | marked
  | reading (after : ℕ)
  | prepared (context : FrozenContext)
  -- The Harness confirmed that the instruction reached the turn.
  | reached
deriving DecidableEq

/-- A steer control that was applied to the running turn of a scope. -/
structure SteerRun where
  scope : String
  turn : ℕ
  instruction : ℕ
  phase : SteerPhase
deriving DecidableEq

/-- How far `failPendingHumanTasks` has come with its first target. -/
inductive SettlerPhase where
  | next
  | reading (after : ℕ)
  | publishing (events : List RoomEvent)
  | acking
deriving DecidableEq

/-- The settlement of the instructions of a scope that waited when it began. -/
structure Settler where
  scope : String
  targets : List ℕ
  phase : SettlerPhase := .next
deriving DecidableEq

/-- A scheduling pass, with the turns it has not tried yet. -/
structure Scheduler where
  candidates : List (String × ℕ)
  -- Who it is, and how many steps were taken when it computed its candidates.
  id : ℕ
  computedAt : ℕ
  -- The turns that were started since, by any scheduler.
  startedSince : List (String × ℕ) := []
deriving DecidableEq

/-- Events of the Room in canonical order, with the sequence through which they are complete. -/
structure RoomEnvelope where
  events : List RoomEvent
  cursor : ℕ
  sorted : events.Pairwise (·.sequence < ·.sequence)
  covered : ∀ event ∈ events, event.sequence ≤ cursor

/-- The reader of Room events: those it has not handled yet, and the cursor to adopt then. -/
structure Reader where
  events : List RoomEvent
  cursor : ℕ
deriving DecidableEq

/-! ## Histories -/

/-- A delivery that the Harness acknowledged. -/
structure Delivery where
  scope : String
  target : ℕ
  context : FrozenContext
  generation : ℕ
deriving DecidableEq

/-- What passes between the Runtime and the Harness. -/
inductive HarnessEvent where
  | dispatched (scope : String) (target : ℕ)
  | acknowledged (delivery : Delivery)
deriving DecidableEq

/-- A turn that a scheduler started. -/
structure TurnStart where
  scheduler : ℕ
  computedAt : ℕ
  scope : String
  target : ℕ
deriving DecidableEq

/-- The Runtime and its goroutines. The fields after `settlers` record the run. -/
structure RuntimeRun where
  runtime : ResidentRuntime
  reader : Option Reader := none
  schedulers : List Scheduler := []
  turns : List TurnRun := []
  steers : List SteerRun := []
  settlers : List Settler := []
  stepCount : ℕ := 0
  schedulerCount : ℕ := 0
  -- The last sequence that was handled.
  received : ℕ
  accepted : List (String × ℕ) := []
  settled : List (String × ℕ) := []
  quarantined : List (String × ℕ) := []
  history : List HarnessEvent := []
  starts : List TurnStart := []

/-! ## Labels -/

/-- The steps of the reader of Room events. -/
inductive ReaderStep where
  | receive (envelope : RoomEnvelope)
  | handle
  | advance
  | rejoin (participantID : String) (cursor : ℕ)

/-- The steps of a turn. The Room may answer a read of its history with an error. -/
inductive TurnStep where
  | adoptionLookUp
  | adoptionRecover (history : Option (List RoomEvent))
  | admitted (generation : ℕ)
  | refused (failure : TurnFailure)
  | observe
  | lookUp
  | recover (history : Option (List RoomEvent))
  | respond (accepted : Bool)
  | returned (outcome : TurnOutcome)
  | settle (history : Option (List RoomEvent))
  | finish

/-- The steps of a steer control. -/
inductive SteerStep where
  | lookUp
  | recover (history : Option (List RoomEvent))
  | reach
  | refuse (cancelled : Bool)
  | record (generation : ℕ)

/-- The steps of the settlement of lost Tasks. -/
inductive SettlerStep where
  | lookUp
  | recover (history : Option (List RoomEvent))
  | publish (published : Bool)
  | ack

/-- The steps of the Runtime. -/
inductive RuntimeStep where
  | reader (step : ReaderStep)
  | noteTerminal (scope : String)
  | reclaim (scope : String) (retained : Bool)
  | retryDue (scope : String) (target : ℕ)
  | schedule (newPass preserveRetryDelay : Bool)
  -- The native conversation of the candidate may be bound to a turn of another scope.
  | launch (index : ℕ) (bound : Bool)
  | turn (index : ℕ) (step : TurnStep)
  | interrupt (scope : String) (turnSequence : ℕ)
  -- The activity of a scope ends, and the interrupt of its turn with it.
  | clearActivity (scope : String)
  | steer (control : SteerControl)
  | steering (index : ℕ) (step : SteerStep)
  | settle (scope : String)
  | settling (index : ℕ) (step : SettlerStep)
  | sessionLost (scope : String)
  | fence
  | stop

/-! ## Steps -/

namespace ResidentRuntime

variable (r : ResidentRuntime)

/-- Whether an event becomes an instruction that waits to be delivered. -/
def admits (event : RoomEvent) : Bool :=
  !r.stopped && !r.admissionsClosed &&
    (r.ensureSession? (scopeForRoomEvent event) event).any fun admitted => admitted.1.accepts event

/-- The context of an instruction, as the first half of `pendingContextFor` finds it. -/
def contextFor? (scope : String) (target : ℕ) : Option FrozenContext :=
  (r.sessionRef? scope).map fun session =>
    { after := (session.contextOf scope r.eventBuffer target).after
      events := (session.contextOf scope r.eventBuffer target).events }

/-- The first half of `pendingContextFor`. -/
def lookUp (scope : String) (target : ℕ) : ResidentRuntime :=
  r.updateSession scope fun session => session.lookUp scope r.eventBuffer target

/-- The events of a scope in an interval, from the history of the Room. An interval without events
is an error, as is a scope that is not served. -/
def recovered? (scope : String) (target after : ℕ) (history : Option (List RoomEvent)) :
    Option FrozenContext := do
  let events ← history
  let _ ← r.sessionRef? scope
  if eventsForScope events scope after target = [] then none
  else some { after, events := eventsForScope events scope after target }

/-- The second half of `pendingContextFor`. -/
def recover (scope : String) (target : ℕ) (events : List RoomEvent) : ResidentRuntime :=
  r.updateSession scope fun session => session.recover target events

/-- Whether the Runtime shuts down. -/
def isShuttingDown : Bool := r.stopped || r.admissionsClosed

/-- Whether a Human interrupted a turn. -/
def turnInterrupted (scope : String) (target : ℕ) : Bool :=
  (r.interrupts.get? scope).any fun interrupt => interrupt.2 = target

/-- Note that a Human interrupted a turn. -/
def markTurnInterrupted (scope : String) (target : ℕ) : ResidentRuntime :=
  { r with interrupts := r.interrupts.set (scope, target) }

/-- Forget that a turn of a scope was interrupted. -/
def clearTurnInterrupted (scope : String) : ResidentRuntime :=
  { r with interrupts := r.interrupts.erase scope }

/-- The turn that was interrupted settles as such, and the interrupt is forgotten. -/
def consumeTurnInterrupted (scope : String) (target : ℕ) : ResidentRuntime :=
  if r.turnInterrupted scope target then r.clearTurnInterrupted scope else r

/-- Note that a Task has its final result. -/
def noteTaskScopeTerminal (scope : String) : ResidentRuntime :=
  { r with
    scopedSessions := r.scopedSessions.modify scope
      (fun entry => (entry.1, { entry.2 with terminal := true })) fun _ => rfl }

/-- A planned retry comes due. It is dropped if its instruction no longer waits. -/
def takeTurnRetry (scope : String) (target : ℕ) : ResidentRuntime :=
  if r.pendingUndelivered scope target then
    { r with
      turnRetries :=
        r.turnRetries.modify (scope, target) (fun state => { state with planned := false })
        fun _ => rfl }
  else r.clearTurnRetry scope target

end ResidentRuntime

/-- The sections by which a failed turn is settled. -/
def TurnFailure.settlement (failure : TurnFailure) : List Settlement :=
  if failure.retryable then [.failInPass, .scheduleRetry]
  else if failure.preHarness then
    [.failInPass, .closeRecovery, .quarantine failure.controlUnavailable]
  else [.failInPass, .closeRecovery, .checkPending]

/-- The sections by which a turn is settled after the call of the Harness. -/
def TurnOutcome.settlement (outcome : TurnOutcome) (interrupted : Bool) (through generation : ℕ) :
    List Settlement :=
  match outcome, interrupted with
  | .busy, _ => []
  | _, true => [.lookUp, .acknowledge through generation, .clearRetry]
  | .terminalFailure, false =>
    [.acknowledge through generation, .clearRetry, .failInPass, .ackPending]
  | .failed failure, false => failure.settlement
  | .succeeded, false => [.checkStopped, .acknowledge through generation, .clearRetry]

/-- Whether the Harness consumed the instruction of a turn. An interrupted turn counts as
consumed, and one that was refused because another was running does not. -/
def TurnOutcome.consumes (outcome : TurnOutcome) (interrupted : Bool) : Bool :=
  match outcome with
  | .busy => false
  | .terminalFailure | .succeeded => true
  | .failed _ => interrupted

namespace RuntimeRun

variable (wireLength : RoomEvent → ℕ) (s : RuntimeRun)

/-- Replace the state of the Runtime. -/
def withRuntime (runtime : ResidentRuntime) : RuntimeRun := { s with runtime }

/-- A turn goes on. -/
def withTurn (index : ℕ) (turn : TurnRun) : RuntimeRun :=
  { s with turns := s.turns.set index turn }

/-- A steer control goes on. -/
def withSteer (index : ℕ) (steer : SteerRun) : RuntimeRun :=
  { s with steers := s.steers.set index steer }

/-- A settlement goes on. -/
def withSettler (index : ℕ) (settler : Settler) : RuntimeRun :=
  { s with settlers := s.settlers.set index settler }

/-- Whether a turn is in its lane. It may be interrupted while it is the activity of its scope,
which it is for a part of that time. -/
def inLane (scope : String) (target : ℕ) : Bool :=
  s.turns.any fun turn => turn.scope = scope && turn.target = target

/-- Whether the Harness executes a turn. -/
def executes (scope : String) (target : ℕ) : Bool :=
  s.turns.any fun turn =>
    turn.scope = scope && turn.target = target && match turn.phase with
      | .running .. => true
      | _ => false

/-- The session on which the Harness executes a turn. -/
def executesOn? (scope : String) (target : ℕ) : Option ℕ :=
  s.turns.findSome? fun turn =>
    if turn.scope = scope ∧ turn.target = target then
      match turn.phase with
      | .running generation _ => some generation
      | _ => none
    else none

/-- The reader handles Room events one after the other. -/
def readerNext? : ReaderStep → Option RuntimeRun
  | .receive envelope =>
    if s.reader.isSome then none
    else some { s with
      reader := some
        { events := envelope.events.filter fun event => s.runtime.cursor < event.sequence
          cursor := envelope.cursor } }
  | .handle =>
    match s.reader with
    | some { events := event :: events, cursor } =>
      let handled := { s with reader := some { events, cursor }, received := event.sequence }
      if event.permission then some handled
      else some { handled with
        runtime := s.runtime.acceptEvent wireLength event
        accepted :=
          if s.runtime.admits event then s.accepted ++ [(scopeForRoomEvent event, event.sequence)]
          else s.accepted }
    | _ => none
  | .advance =>
    match s.reader with
    | some { events := [], cursor } =>
      some { s with
        reader := none
        runtime := { s.runtime with cursor := max s.runtime.cursor cursor } }
    | _ => none
  | .rejoin participantID cursor =>
    if s.reader.isSome then none
    else some { s with runtime := { s.runtime with participantID, cursor } }

/-- A scheduler computes its candidates. -/
def schedule (newPass preserveRetryDelay : Bool) : RuntimeRun :=
  let runtime := if newPass then
    { s.runtime with drainGeneration := s.runtime.drainGeneration + 1 } else s.runtime
  { s with
    runtime
    schedulerCount := s.schedulerCount + 1
    schedulers := s.schedulers ++
      [{ candidates := runtime.runnableTurns preserveRetryDelay
         id := s.schedulerCount
         computedAt := s.stepCount }] }

/-- A scheduler starts a turn. -/
def start (index : ℕ) (scheduler : Scheduler) (scope : String) (target : ℕ) : RuntimeRun :=
  { s with
    runtime := s.runtime.beginTurnLane scope target
    turns := s.turns ++ [{ scope, target, phase := .admitting }]
    schedulers := (s.schedulers.set index scheduler).map fun scheduler =>
      { scheduler with startedSince := (scope, target) :: scheduler.startedSince }
    starts := s.starts ++
      [{ scheduler := scheduler.id, computedAt := scheduler.computedAt, scope, target }] }

/-- A scheduler tries its next candidate. -/
def launch? (index : ℕ) (bound : Bool) : Option RuntimeRun :=
  match s.schedulers[index]? with
  | none => none
  | some scheduler =>
    match scheduler.candidates with
    | [] => some { s with schedulers := s.schedulers.eraseIdx index }
    | (scope, target) :: candidates =>
      let advanced := { scheduler with candidates }
      if bound then some { s with schedulers := s.schedulers.set index advanced }
      else match s.runtime.turnLaneResult scope with
        | .capacityFull => some { s with schedulers := s.schedulers.eraseIdx index }
        | .scopeBusy => some { s with schedulers := s.schedulers.set index advanced }
        | .granted => some (s.start index advanced scope target)

/-- One section of the settlement of a turn, and the sections that are left. -/
def settleTurn (turn : TurnRun) (todo : List Settlement) (history : Option (List RoomEvent)) :
    Settlement → ResidentRuntime × List Settlement
  | .lookUp =>
    match s.runtime.contextFor? turn.scope turn.target with
    | none => (s.runtime, todo)
    | some context =>
      (s.runtime.lookUp turn.scope turn.target,
        if context.events = [] then .recover context.after :: todo else todo)
  | .recover after =>
    match s.runtime.recovered? turn.scope turn.target after history with
    | none => (s.runtime, todo)
    | some context => (s.runtime.recover turn.scope turn.target context.events, todo)
  | .checkStopped => (s.runtime, if s.runtime.stopped then [] else todo)
  | .acknowledge through generation =>
    (s.runtime.acknowledgeHarnessDelivery turn.scope turn.target through generation, todo)
  | .clearRetry => (s.runtime.clearTurnRetry turn.scope turn.target, todo)
  | .failInPass => (s.runtime.markTurnFailedInPass turn.scope turn.target, todo)
  | .scheduleRetry =>
    let scheduled := s.runtime.scheduleTurnRetry turn.scope turn.target
    (scheduled,
      if scheduled.retriesExhausted turn.scope turn.target then .checkPending :: todo else todo)
  | .closeRecovery => (s.runtime.closeTurnRecovery turn.scope turn.target, todo)
  | .checkPending =>
    (s.runtime,
      if taskExecutionScope turn.scope ∧ s.runtime.pendingUndelivered turn.scope turn.target then
        .quarantine false :: todo
      else todo)
  | .quarantine controlUnavailable =>
    if taskExecutionScope turn.scope then
      (s.runtime.markTaskAttentionAndQuarantine turn.scope controlUnavailable, todo)
    else (s.runtime, todo)
  | .ackPending => (s.runtime.ackPending turn.scope turn.target, todo)

/-- The instructions that a section of the settlement of a turn gives up. -/
def quarantines (turn : TurnRun) : Settlement → List (String × ℕ)
  | .quarantine _ =>
    ((s.runtime.sessionRef? turn.scope).elim [] (·.pendingAddressed)).map (turn.scope, ·)
  | _ => []

/-- The sections by which a turn is settled after the call of the Harness returned. A Runtime that
shuts down leaves the turn as it is. -/
def afterReturn (turn : TurnRun) (generation : ℕ) (context : FrozenContext)
    (outcome : TurnOutcome) : List Settlement :=
  if s.runtime.isShuttingDown then []
  else outcome.settlement (s.runtime.turnInterrupted turn.scope turn.target) context.through
    generation

/-- A turn takes its next step. -/
def turnNext? (index : ℕ) (turn : TurnRun) (step : TurnStep) : Option RuntimeRun :=
  let go := fun phase => s.withTurn index { turn with phase }
  match turn.phase, step with
  | .admitting, .adoptionLookUp =>
    if turn.scope = roomScope then none
    else match s.runtime.contextFor? turn.scope turn.target with
      | none => some s
      | some context =>
        some ((go (if context.events = [] then .adopting context.after else .admitting)).withRuntime
          (s.runtime.lookUp turn.scope turn.target))
  | .adopting after, .adoptionRecover history =>
    match s.runtime.recovered? turn.scope turn.target after history with
    | none => some (go .admitting)
    | some context =>
      some ((go .admitting).withRuntime
        (s.runtime.recover turn.scope turn.target context.events))
  | .admitting, .admitted generation => some (go (.observing generation))
  | .admitting, .refused failure => some (go (.settling failure.settlement))
  | .observing generation, .observe =>
    some ((go (.freezing generation)).withRuntime
      (s.runtime.updateSession turn.scope fun session => session.observe generation turn.target))
  | .freezing generation, .lookUp =>
    match s.runtime.contextFor? turn.scope turn.target with
    | none => some (go (.settling [.failInPass, .scheduleRetry]))
    | some context =>
      some ((go (if context.events = [] then .reading generation context.after
        else .rendered generation context)).withRuntime (s.runtime.lookUp turn.scope turn.target))
  | .reading generation after, .recover history =>
    match s.runtime.recovered? turn.scope turn.target after history with
    | none => some (go (.settling [.failInPass, .scheduleRetry]))
    | some context =>
      some ((go (.rendered generation context)).withRuntime
        (s.runtime.recover turn.scope turn.target context.events))
  | .rendered generation context, .respond accepted =>
    if accepted then
      some { go (.running generation context) with
        history := s.history ++ [.dispatched turn.scope turn.target] }
    else some (go (.settling [.failInPass]))
  | .running generation context, .returned outcome =>
    some { (go (.settling (s.afterReturn turn generation context outcome))).withRuntime
        (s.runtime.consumeTurnInterrupted turn.scope turn.target) with
      history :=
        if outcome.consumes (s.runtime.turnInterrupted turn.scope turn.target) then
          s.history ++ [.acknowledged
            { scope := turn.scope, target := turn.target, context, generation }]
        else s.history }
  | .settling (settlement :: todo), .settle history =>
    let settled := s.settleTurn turn todo history settlement
    some { (go (.settling settled.2)).withRuntime settled.1 with
      quarantined := s.quarantined ++ s.quarantines turn settlement }
  | .settling [], .finish =>
    some { s with
      turns := s.turns.eraseIdx index
      runtime := s.runtime.finishTurnLane turn.scope turn.target }
  | _, _ => none

/-- A steer control is applied to the running turn it names, once for each instruction. -/
def steerControl (control : SteerControl) : RuntimeRun :=
  let scope := taskScopeForRequestID control.taskRequestID
  let instruction := control.steerInstructionSequence
  let running := (s.runtime.activeTurns.get? scope).any fun lane =>
    lane.target = control.turnSequence
  match s.runtime.sessionRef? scope with
  | none => s
  | some session =>
    let promotion := session.steerPromotion control.turnSequence instruction
    if scope = "" ∨ control.turnSequence = 0 ∨ JsValue.maxSafeInteger < instruction then s
    else if running = false ∨ promotion = .missing ∨ promotion = .duplicate then s
    else { s with
      runtime := s.runtime.setSession scope (session.markSteerPriority instruction)
      steers := s.steers ++
        [{ scope, turn := control.turnSequence, instruction, phase := .marked }] }

/-- A steer control takes its next step. The Harness is only reached by the turn it executes. -/
def steerNext? (index : ℕ) (steer : SteerRun) (step : SteerStep) : Option RuntimeRun :=
  let go := fun phase => s.withSteer index { steer with phase }
  match steer.phase, step with
  | .marked, .lookUp =>
    (s.runtime.contextFor? steer.scope steer.instruction).map fun context =>
      (go (if context.events = [] then .reading context.after else .prepared context)).withRuntime
        (s.runtime.lookUp steer.scope steer.instruction)
  | .reading after, .recover history =>
    (s.runtime.recovered? steer.scope steer.instruction after history).map fun context =>
      (go (.prepared context)).withRuntime
        (s.runtime.recover steer.scope steer.instruction context.events)
  | .prepared context, .reach =>
    (s.executesOn? steer.scope steer.turn).map fun generation =>
      { go .reached with
        history := s.history ++ [.acknowledged
          { scope := steer.scope, target := steer.instruction, context, generation }] }
  | .reached, .record generation =>
    some { s with
      steers := s.steers.eraseIdx index
      runtime := s.runtime.acknowledgeHarnessDelivery steer.scope steer.instruction
        steer.instruction generation }
  | .reached, .refuse _ => none
  | _, .refuse cancelled =>
    some { s with
      steers := s.steers.eraseIdx index
      runtime :=
        if cancelled ∧ s.executes steer.scope steer.turn then
          s.runtime.markTurnInterrupted steer.scope steer.turn
        else s.runtime }
  | _, _ => none

/-- The settlement of lost Tasks takes its next step. -/
def settlerNext? (index : ℕ) (settler : Settler) (step : SettlerStep) : Option RuntimeRun :=
  let go := fun targets phase => s.withSettler index { settler with targets, phase }
  match settler.targets, settler.phase, step with
  | [], _, .lookUp => some { s with settlers := s.settlers.eraseIdx index }
  | target :: targets, .next, .lookUp =>
    match s.runtime.contextFor? settler.scope target with
    | none => some (go targets .next)
    | some context =>
      some ((go (target :: targets) (if context.events = [] then .reading context.after
        else .publishing context.events)).withRuntime (s.runtime.lookUp settler.scope target))
  | target :: targets, .reading after, .recover history =>
    match s.runtime.recovered? settler.scope target after history with
    | none => some (go targets .next)
    | some context =>
      some ((go (target :: targets) (.publishing context.events)).withRuntime
        (s.runtime.recover settler.scope target context.events))
  | target :: targets, .publishing events, .publish published =>
    let request := (s.runtime.sessionRef? settler.scope).bind fun session =>
      session.humanTaskRequestForScope s.runtime.participantID events
    if published ∧ request.isSome then
      some { (go (target :: targets) .acking).withRuntime
          (s.runtime.noteTaskScopeTerminal settler.scope) with
        settled := s.settled ++ [(settler.scope, target)] }
    else some (go targets .next)
  | target :: targets, .acking, .ack =>
    some ((go targets .next).withRuntime (s.runtime.ackPending settler.scope target))
  | _, _, _ => none

/-- The effect of a step of the Runtime, if it can be taken. -/
def effect? : RuntimeStep → Option RuntimeRun
  | .reader step => s.readerNext? wireLength step
  | .noteTerminal scope => some (s.withRuntime (s.runtime.noteTaskScopeTerminal scope))
  | .reclaim scope retained =>
    if s.runtime.reclaimableTaskScope scope then
      some (s.withRuntime (s.runtime.releaseTerminalTaskScope scope retained))
    else none
  | .retryDue scope target =>
    if (s.runtime.turnRetries.get? (scope, target)).any (·.planned) then
      some (s.withRuntime (s.runtime.takeTurnRetry scope target))
    else none
  | .schedule newPass preserveRetryDelay =>
    if s.runtime.stopped then none else some (s.schedule newPass preserveRetryDelay)
  | .launch index bound => s.launch? index bound
  | .turn index step => s.turns[index]?.bind fun turn => s.turnNext? index turn step
  | .interrupt scope turnSequence =>
    if s.inLane scope turnSequence then
      some (s.withRuntime (s.runtime.markTurnInterrupted scope turnSequence))
    else none
  | .clearActivity scope => some (s.withRuntime (s.runtime.clearTurnInterrupted scope))
  | .steer control => some (s.steerControl control)
  | .steering index step => s.steers[index]?.bind fun steer => s.steerNext? index steer step
  | .settle scope =>
    (s.runtime.sessionRef? scope).map fun session =>
      { s with settlers := s.settlers ++ [{ scope, targets := session.pendingAddressed }] }
  | .settling index step =>
    s.settlers[index]?.bind fun settler => s.settlerNext? index settler step
  | .sessionLost scope =>
    if taskExecutionScope scope then some (s.withRuntime (s.runtime.markTaskSessionLost scope))
    else none
  | .fence => some (s.withRuntime { s.runtime with admissionsClosed := true })
  | .stop => some (s.withRuntime s.runtime.beginStop)

/-- The number of steps after a step. Computing candidates does not count. -/
def countAfter : RuntimeStep → ℕ
  | .schedule .. => s.stepCount
  | _ => s.stepCount + 1

/-- One step. Nothing can be done while the mutex is held for ever. -/
def next? (step : RuntimeStep) : Option RuntimeRun :=
  if s.runtime.muHeld then none
  else (s.effect? wireLength step).map fun after => { after with stepCount := s.countAfter step }

variable {wireLength s} in
lemma exists_effect {step : RuntimeStep} {s' : RuntimeRun} (h : s.next? wireLength step = some s') :
    ∃ after, s.effect? wireLength step = some after ∧
      { after with stepCount := s.countAfter step } = s' := by
  rw [next?] at h
  split at h
  · cases h
  · exact Option.map_eq_some_iff.mp h

end RuntimeRun

/-- The runs of a Runtime that has joined a Room. -/
def runtimeSystem (wireLength : RoomEvent → ℕ) : TransitionSystem RuntimeRun RuntimeStep where
  init s := ∃ participantID cursor turnLanes,
    s = { runtime := firstJoin participantID cursor turnLanes, received := cursor }
  step s step s' := s.next? wireLength step = some s'

end Free4Chat
