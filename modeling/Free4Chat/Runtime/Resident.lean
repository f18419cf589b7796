import Free4Chat.Runtime.Ledger
import Free4Chat.Task.TaskScope

/-!
# The Resident Runtime

The state that the Runtime of an Agent guards by one mutex, and its critical sections: admission of
events, the scheduler of turns with its bounded lanes, retries, and scopes that are given back.

* `ResidentRuntime`: the state.
* `ResidentRuntime.sessionRef?` and `ResidentRuntime.setSession`: the ledger of a scope.
* `ResidentRuntime.acceptEvent`: an event of the Room arrives.
* `ResidentRuntime.runnableTurns`, `ResidentRuntime.beginTurnLane` and
  `ResidentRuntime.finishTurnLane`: the scheduler.
* `ResidentRuntime.scheduleTurnRetry` and `ResidentRuntime.markTaskAttentionAndQuarantine`: failed
  turns.
* `ResidentRuntime.releaseTerminalTaskScope`: a scope is given back.
-/

namespace Free4Chat

/-! ## State -/

/-- What is remembered of a scope whose conversation was given back and can be loaded again. -/
structure ReleasedTaskScope where
  scope : String
  deliveredThrough : ℕ
  roomDeliveryFloor : ℕ
  observedHarnessGeneration : ℕ
  bootstrappedHarnessGeneration : ℕ
deriving DecidableEq

instance : Keyed ReleasedTaskScope String where
  key := ReleasedTaskScope.scope

/-- A lane that executes a turn, and the drain pass that launched it. -/
structure ActiveTurnLane where
  scope : String
  target : ℕ
  generation : ℕ
deriving DecidableEq

instance : Keyed ActiveTurnLane String where
  key := ActiveTurnLane.scope

@[simp]
lemma ActiveTurnLane.key_eq (lane : ActiveTurnLane) : Keyed.key lane = lane.scope := rfl

/-- The retries of one turn: how many there were, and whether one is scheduled. -/
structure TurnRetryState where
  scope : String
  target : ℕ
  attempt : ℕ := 0
  planned : Bool := false
deriving DecidableEq

instance : Keyed TurnRetryState (String × ℕ) where
  key state := (state.scope, state.target)

/-- Most scopes whose conversations are remembered after they were given back. -/
def maxReleasedTaskScopes : ℕ := maxLogicalTaskScopes

/-- Most autonomous retries of one turn. -/
def maxTurnRetryAttempts : ℕ := 2

/-- Most scopes that one scheduling pass looks at. -/
def maxPendingTurnCandidates : ℕ := 16

/-- Most events kept in the buffer. -/
def defaultMaxEvents : ℕ := 50

/-- Most characters kept in the buffer. -/
def defaultMaxChars : ℕ := 32000

/-- The state of the Runtime that its mutex guards. -/
structure ResidentRuntime where
  participantID : String
  -- Through which sequence events of the Room were received.
  cursor : ℕ
  stopped : Bool := false
  admissionsClosed : Bool := false
  -- The ledger of the Room, and those of the Tasks in the order of their admission.
  room : LogicalSession := {}
  scopedSessions : KeyedMap (String × LogicalSession) := .empty
  releasedTaskScopes : KeyedMap ReleasedTaskScope := .empty
  eventBuffer : List RoomEvent := []
  turnLanes : ℕ
  activeTurns : KeyedMap ActiveTurnLane := .empty
  drainGeneration : ℕ := 0
  turnFailedGeneration : KeyedMap (String × ℕ) := .empty
  turnRetries : KeyedMap TurnRetryState := .empty
  closedTurnRecovery : List (String × ℕ) := []
  taskExecutionFacts : KeyedMap (String × TaskExecutionAvailability) := .empty
  interrupts : KeyedMap (String × ℕ) := .empty
  -- A critical section returned without giving the mutex back.
  muHeld : Bool := false
deriving DecidableEq

/-- The events that fit into the buffer, without the oldest ones. -/
def evictEvents (wireLength : RoomEvent → ℕ) : List RoomEvent → List RoomEvent
  | [] => []
  | event :: events =>
    if defaultMaxEvents < (event :: events).length ∨
        defaultMaxChars < ((event :: events).map wireLength).sum then
      evictEvents wireLength events
    else event :: events

/-- Join a Room for the first time. Its earlier events are not delivered by themselves. -/
def firstJoin (participantID : String) (cursor turnLanes : ℕ) : ResidentRuntime where
  participantID := participantID
  cursor := cursor
  room := { deliveredThrough := cursor, roomDeliveryFloor := cursor }
  turnLanes := turnLanes

namespace ResidentRuntime

variable (r : ResidentRuntime)

/-! ## Scopes -/

/-- The ledger of a scope, if the Runtime serves it. -/
def sessionRef? (scope : String) : Option LogicalSession :=
  if scope = roomScope then some r.room else (r.scopedSessions.get? scope).map Prod.snd

/-- Store the ledger of a scope. -/
def setSession (scope : String) (session : LogicalSession) : ResidentRuntime :=
  if scope = roomScope then { r with room := session }
  else { r with scopedSessions := r.scopedSessions.set (scope, session) }

/-- Change the ledger of a scope, if the Runtime serves it. -/
def updateSession (scope : String) (change : LogicalSession → LogicalSession) : ResidentRuntime :=
  match r.sessionRef? scope with
  | none => r
  | some session => r.setSession scope (change session)

/-- A ledger for a scope that the Runtime does not serve yet. A conversation that was given back is
resumed. -/
def newSession (scope : String) : LogicalSession :=
  match r.releasedTaskScopes.get? scope with
  | none => {}
  | some released =>
    { deliveredThrough := released.deliveredThrough
      roomDeliveryFloor := released.roomDeliveryFloor
      observedHarnessGeneration := released.observedHarnessGeneration
      bootstrappedHarnessGeneration := released.bootstrappedHarnessGeneration
      rematerializing := true }

/-- The ledger in which an event of a scope is recorded, and the Runtime that serves the scope. A
Runtime that serves too many scopes refuses another one. -/
def ensureSession? (scope : String) (event : RoomEvent) :
    Option (LogicalSession × ResidentRuntime) :=
  if scope = "" then none
  else match r.sessionRef? scope with
    | some session =>
      some (if scope = roomScope then session
        else session.observeEvent scope r.participantID event, r)
    | none =>
      if maxLogicalTaskScopes ≤ r.scopedSessions.size then none
      else some (((r.newSession scope).observeEvent scope r.participantID event).startAt event,
        { r with releasedTaskScopes := r.releasedTaskScopes.erase scope })

/-- A new instruction ends what holds the Task of its scope back. In the Room, it also allows the
turns whose recovery was closed to be tried again. -/
def reopen (scope : String) (event : RoomEvent) : ResidentRuntime :=
  if scope = roomScope then
    { r with
      closedTurnRecovery := r.closedTurnRecovery.filter fun key => key.1 ≠ scope
      turnRetries := r.turnRetries.filter fun state =>
        !(state.scope = scope && r.closedTurnRecovery.contains (state.scope, state.target)) }
  else if event.participantKind = .human then
    { r with
      taskExecutionFacts := r.taskExecutionFacts.filter fun fact =>
        !(fact.1 = scope && (fact.2 = .controlUnavailable || fact.2 = .needsAttention)) }
  else r

/-- An event of the Room is admitted. An addressed one becomes an instruction of its scope. -/
def acceptEvent (wireLength : RoomEvent → ℕ) (event : RoomEvent) : ResidentRuntime :=
  if r.stopped ∨ r.admissionsClosed then r
  else
    let scope := scopeForRoomEvent event
    match r.ensureSession? scope event with
    | none => r
    | some (session, admitted) =>
      let buffered := { admitted with
        eventBuffer := evictEvents wireLength (r.eventBuffer ++ [event]) }
      if session.accepts event then
        (buffered.setSession scope
          (session.accept scope buffered.eventBuffer event.sequence)).reopen scope event
      else buffered.setSession scope session

/-! ## Delivery -/

/-- Whether autonomous recovery of a turn is over. -/
def turnRecoveryClosed (scope : String) (target : ℕ) : Bool :=
  r.closedTurnRecovery.contains (scope, target)

/-- Forget that recovery is over for the turns that left the ledger. -/
def forgetTurnRecovery (scope : String) (targets : List ℕ) : ResidentRuntime :=
  { r with
    closedTurnRecovery := r.closedTurnRecovery.filter fun key =>
      !(key.1 = scope && targets.contains key.2) }

/-- The Harness consumed an instruction. -/
def acknowledgeHarnessDelivery (scope : String) (target through generation : ℕ) :
    ResidentRuntime :=
  match r.sessionRef? scope with
  | none => r
  | some session =>
    let recorded := (session.bootstrap generation).recordDelivery target through
    (r.setSession scope (session.acknowledge target through generation)).forgetTurnRecovery scope
      recorded.deliveredPrefix

/-- Remove one instruction. Without a ledger for its scope, the mutex is not given back. -/
def ackPending (scope : String) (sequence : ℕ) : ResidentRuntime :=
  match r.sessionRef? scope with
  | none => { r with muHeld := true }
  | some session =>
    if sequence ∈ session.pendingAddressed then
      (r.setSession scope (session.ackPending sequence)).forgetTurnRecovery scope [sequence]
    else r

/-- Whether an instruction still waits to be delivered. -/
def pendingUndelivered (scope : String) (target : ℕ) : Bool :=
  (r.sessionRef? scope).any (·.pendingUndelivered target)

/-! ## The scheduler -/

/-- Whether a Task waits for a Human to look at it. -/
def taskExecutionBlocked (scope : String) : Bool :=
  (r.taskExecutionFacts.get? scope).any fun fact =>
    fact.2 = .controlUnavailable || fact.2 = .needsAttention

/-- The scopes with undelivered instructions: the Room first, then the Tasks in the order of their
admission. -/
def pendingSessions : List (String × LogicalSession) :=
  ((roomScope, r.room) :: r.scopedSessions.values).filter fun entry =>
    entry.2.pendingAddressed ≠ []

/-- The instruction a scope should deliver next, unless its Task is held back. -/
def nextPendingTarget (scope : String) (session : LogicalSession) : Option ℕ :=
  if r.taskExecutionBlocked scope then none
  else session.nextPendingTarget (r.turnRecoveryClosed scope)

/-- Whether a scope is left out of the current scheduling pass. -/
def skipsScope (preserveRetryDelay : Bool) (scope : String) : Bool :=
  r.activeTurns.contains scope ||
    (r.turnFailedGeneration.get? scope).any (fun failed => failed.2 = r.drainGeneration) ||
    (preserveRetryDelay && r.turnRetries.values.any fun state =>
      state.scope = scope && state.planned)

/-- The turns that could be started now. -/
def runnableTurns (preserveRetryDelay : Bool) : List (String × ℕ) :=
  ((r.pendingSessions.filter fun entry => !r.skipsScope preserveRetryDelay entry.1).filterMap
    fun entry => (r.nextPendingTarget entry.1 entry.2).map fun target =>
      (entry.1, target)).take maxPendingTurnCandidates

/-- What came of asking for a lane. -/
inductive TurnLaneResult where
  | granted
  | scopeBusy
  | capacityFull
deriving DecidableEq

/-- Whether a turn may start. -/
def turnLaneResult (scope : String) : TurnLaneResult :=
  if r.stopped ∨ r.admissionsClosed then .capacityFull
  else if r.activeTurns.contains scope then .scopeBusy
  else if r.turnLanes ≤ r.activeTurns.size then .capacityFull
  else .granted

/-- Start a turn in a lane of its own. -/
def beginTurnLane (scope : String) (target : ℕ) : ResidentRuntime :=
  { r with
    activeTurns := r.activeTurns.set { scope, target, generation := r.drainGeneration } }

/-- Give a lane back, if it is that of the turn. -/
def finishTurnLane (scope : String) (target : ℕ) : ResidentRuntime :=
  match r.activeTurns.get? scope with
  | some lane =>
    if lane.target = target then { r with activeTurns := r.activeTurns.erase scope } else r
  | none => r

/-! ## Failed turns -/

/-- A turn that fails ends the drain pass of its scope. -/
def markTurnFailedInPass (scope : String) (target : ℕ) : ResidentRuntime :=
  match r.activeTurns.get? scope with
  | some lane =>
    if lane.target = target then
      { r with turnFailedGeneration := r.turnFailedGeneration.set (scope, lane.generation) }
    else r
  | none => r

/-- Stop the autonomous recovery of a turn of the Room that still waits. -/
def closeTurnRecovery (scope : String) (target : ℕ) : ResidentRuntime :=
  if taskExecutionScope scope then r
  else if (r.sessionRef? scope).any fun session => target ∈ session.pendingAddressed then
    { r with closedTurnRecovery := (scope, target) :: r.closedTurnRecovery }
  else r

/-- Record a failed attempt of a turn, and plan the next one while some are left. -/
def scheduleTurnRetry (scope : String) (target : ℕ) : ResidentRuntime :=
  let state := (r.turnRetries.get? (scope, target)).getD { scope, target }
  let counted := { state with attempt := state.attempt + 1 }
  if r.stopped then r
  else if maxTurnRetryAttempts < counted.attempt then
    { r with turnRetries := r.turnRetries.set { counted with planned := false } }.closeTurnRecovery
      scope target
  else { r with turnRetries := r.turnRetries.set { counted with planned := true } }

/-- Whether a turn has no retries left. -/
def retriesExhausted (scope : String) (target : ℕ) : Bool :=
  (r.turnRetries.get? (scope, target)).any fun state => maxTurnRetryAttempts < state.attempt

/-- Forget the retries of a turn. -/
def clearTurnRetry (scope : String) (target : ℕ) : ResidentRuntime :=
  { r with turnRetries := r.turnRetries.erase (scope, target) }

/-- Give up the instructions of a Task until a Human looks at it. -/
def markTaskAttentionAndQuarantine (scope : String) (controlUnavailable : Bool) :
    ResidentRuntime :=
  let discarded := (r.sessionRef? scope).elim [] (·.pendingAddressed)
  let given := (r.updateSession scope LogicalSession.discard).forgetTurnRecovery scope discarded
  let lost := (r.taskExecutionFacts.get? scope).any fun fact => fact.2 = .sessionLost
  { given with
    turnRetries := r.turnRetries.filter fun state => state.scope ≠ scope
    taskExecutionFacts := r.taskExecutionFacts.set (scope,
      if lost then .sessionLost
      else if controlUnavailable then .controlUnavailable else .needsAttention) }

/-- The conversation of a Task was lost with its executor. -/
def markTaskSessionLost (scope : String) : ResidentRuntime :=
  { r with taskExecutionFacts := r.taskExecutionFacts.set (scope, .sessionLost) }

/-! ## Scopes that are given back -/

/-- Whether the scope of a Task may be given back: its Task is over, and nothing of it is left. -/
def reclaimableTaskScope (scope : String) : Bool :=
  taskExecutionScope scope &&
    (r.scopedSessions.get? scope).any (fun entry =>
      entry.2.terminal && entry.2.pendingAddressed.isEmpty &&
        entry.2.pendingContexts.values.isEmpty) &&
    !r.activeTurns.contains scope &&
    !(r.turnRetries.values.any fun state => state.scope = scope) &&
    !(r.closedTurnRecovery.any fun key => key.1 = scope)

/-- Remember a conversation that was given back. The oldest ones are forgotten. -/
def rememberReleasedConversation (scope : String) (session : LogicalSession) :
    ResidentRuntime :=
  let remembered := r.releasedTaskScopes.set
    { scope
      deliveredThrough := session.deliveredThrough
      roomDeliveryFloor := session.roomDeliveryFloor
      observedHarnessGeneration := session.observedHarnessGeneration
      bootstrappedHarnessGeneration := session.bootstrappedHarnessGeneration }
  let kept := remembered.keys.drop (remembered.size - maxReleasedTaskScopes)
  { r with releasedTaskScopes := remembered.filter fun released => kept.contains released.scope }

/-- Give the scope of a Task back. The conversation is remembered if the adapter kept it. -/
def releaseTerminalTaskScope (scope : String) (retained : Bool) : ResidentRuntime :=
  match (r.scopedSessions.get? scope).map Prod.snd with
  | none => r
  | some session =>
    let removed := { r with
      scopedSessions := r.scopedSessions.erase scope
      turnFailedGeneration := r.turnFailedGeneration.erase scope
      interrupts := r.interrupts.erase scope
      taskExecutionFacts := r.taskExecutionFacts.erase scope }
    if retained then removed.rememberReleasedConversation scope session else removed

/-- Stop: the ledger of the Room is dropped. -/
def beginStop : ResidentRuntime :=
  { r with
    stopped := true
    admissionsClosed := true
    room := { r.room with pendingAddressed := [], pendingContexts := .empty }
    closedTurnRecovery := []
    eventBuffer := []
    taskExecutionFacts := .empty
    interrupts := .empty }

end ResidentRuntime

end Free4Chat
