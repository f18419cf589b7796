import Free4Chat.Data.ListedMap
import Free4Chat.Runtime.Resident
import Free4Chat.Transition.Reachable

/-!
# The Table of Scopes and the Conversations Given Back

The Runtime serves a bounded number of Tasks. Their states are in a map, and the order of their
admission in a list of its own. When a new Task arrives at a full Runtime, the handler of the event
gives one finished and idle scope back: it asks the adapter to release the conversation, removes
the scope, and remembers the markers of the conversation, each in a critical section of its own.
A remembered scope that is admitted again resumes with these markers.

The handlers of events, the turns and the settlements run at once, and the stream of events may be
replaced while the handler of the old one is still at work, so any number of events are handled at
the same time.

* `DeliveryMarkers` and `LogicalSessionState`: what is known about the deliveries of a scope.
* `ScopeTable`: the states of the scopes and the conversations that were given back.
* `ScopeTable.ensureSessionRef?` and `ScopeTable.recordEvent`: the two halves of `acceptEvent`.
* `ScopeTable.reclaimableTaskScope`, `ScopeTable.releaseTerminalTaskScope` and
  `ScopeTable.rememberReleasedConversation`: a scope is given back.
* `ScopeRun.next?`: one critical section. `scopeSystem`: the transition system.
-/

namespace Free4Chat

/-! ## One scope -/

/-- Through where transcripts were delivered, and what is not delivered by itself. -/
structure TranscriptMarkers where
  meetingDeliveredThrough : ℕ := 0
  meetingDeliveryFloor : ℕ := 0
  liveTranscriptDeliveredThrough : ℕ := 0
  liveTranscriptDeliveryFloor : ℕ := 0
deriving DecidableEq

/-- What the Runtime keeps of a conversation that was given back. -/
structure DeliveryMarkers where
  deliveredThrough : ℕ := 0
  roomDeliveryFloor : ℕ := 0
  observedHarnessGeneration : ℕ := 0
  bootstrappedHarnessGeneration : ℕ := 0
  transcripts : TranscriptMarkers := {}
  sourceCursors : List (String × ℕ) := []
deriving DecidableEq

/-- What lies at or below this sequence is not delivered by itself. -/
def DeliveryMarkers.start (markers : DeliveryMarkers) : ℕ :=
  max markers.deliveredThrough markers.roomDeliveryFloor

/-- The state of the logical session of a Task. -/
structure LogicalSessionState where
  scope : String
  -- Which object this is. A scope that is admitted again has another one.
  id : ℕ
  session : LogicalSession := {}
  transcripts : TranscriptMarkers := {}
  sourceCursors : List (String × ℕ) := []
deriving DecidableEq

instance : Keyed LogicalSessionState String where
  key := LogicalSessionState.scope

@[simp]
lemma LogicalSessionState.key_eq (state : LogicalSessionState) :
    Keyed.key state = state.scope := rfl

/-- A conversation that was given back and can be loaded again. -/
structure ReleasedConversation where
  scope : String
  markers : DeliveryMarkers
  -- A Human handed this conversation off to the Task.
  adopted : Bool
deriving DecidableEq

instance : Keyed ReleasedConversation String where
  key := ReleasedConversation.scope

@[simp]
lemma ReleasedConversation.key_eq (released : ReleasedConversation) :
    Keyed.key released = released.scope := rfl

/-- A finished Task whose scope may be given back. -/
structure ReclaimCandidate where
  scope : String
  adopted : Bool
deriving DecidableEq

namespace LogicalSessionState

variable (state : LogicalSessionState)

/-- The markers of a scope. -/
def markers : DeliveryMarkers where
  deliveredThrough := state.session.deliveredThrough
  roomDeliveryFloor := state.session.roomDeliveryFloor
  observedHarnessGeneration := state.session.observedHarnessGeneration
  bootstrappedHarnessGeneration := state.session.bootstrappedHarnessGeneration
  transcripts := state.transcripts
  sourceCursors := state.sourceCursors

/-- The state of a scope whose conversation is resumed. -/
def resume (scope : String) (id : ℕ) (markers : DeliveryMarkers) : LogicalSessionState where
  scope := scope
  id := id
  session :=
    { deliveredThrough := markers.deliveredThrough
      roomDeliveryFloor := markers.roomDeliveryFloor
      observedHarnessGeneration := markers.observedHarnessGeneration
      bootstrappedHarnessGeneration := markers.bootstrappedHarnessGeneration
      rematerializing := true }
  transcripts := markers.transcripts
  sourceCursors := markers.sourceCursors

/-- Change the ledger of a scope. -/
def updateSession (change : LogicalSession → LogicalSession) : LogicalSessionState :=
  { state with session := change state.session }

lemma key_updateSession (change : LogicalSession → LogicalSession) :
    Keyed.key (state.updateSession change) = Keyed.key state := rfl

/-- Whether a session of the Harness replaces the conversation of a scope by another one. -/
def replacedBy (generation : ℕ) : Bool :=
  generation ≠ 0 && state.session.observedHarnessGeneration ≠ 0 &&
    state.session.observedHarnessGeneration ≠ generation && !state.session.rematerializing

/-- The Harness serves a scope from a session. A conversation that replaces another is not told the
transcripts that the other was told. -/
def observe (generation target : ℕ) : LogicalSessionState :=
  { state with
    session := state.session.observe generation target
    transcripts :=
      if state.replacedBy generation then
        { meetingDeliveryFloor := max state.transcripts.meetingDeliveryFloor
            state.transcripts.meetingDeliveredThrough
          liveTranscriptDeliveryFloor := max state.transcripts.liveTranscriptDeliveryFloor
            state.transcripts.liveTranscriptDeliveredThrough }
      else state.transcripts }

/-- Transcripts were delivered. -/
def acknowledgeTranscripts (meeting live : ℕ) : LogicalSessionState :=
  { state with
    transcripts :=
      { state.transcripts with
        meetingDeliveredThrough := max state.transcripts.meetingDeliveredThrough meeting
        liveTranscriptDeliveredThrough :=
          max state.transcripts.liveTranscriptDeliveredThrough live } }

end LogicalSessionState

/-! ## The table -/

/-- The scopes of the Tasks that the Runtime serves, and what decides whether one of them may be
given back. -/
structure ScopeTable where
  participantID : String
  stopped : Bool := false
  admissionsClosed : Bool := false
  scopedSessions : KeyedMap LogicalSessionState := .empty
  scopeOrder : List String := []
  releasedTaskScopes : KeyedMap ReleasedConversation := .empty
  releasedTaskOrder : List String := []
  eventBuffer : List RoomEvent := []
  activeTurns : List String := []
  turnRetries : List (String × ℕ) := []
  closedTurnRecovery : List (String × ℕ) := []
  adoptedScopes : List String := []
  -- The object that the next new scope gets.
  nextID : ℕ := 0

namespace ScopeTable

variable (wireLength : RoomEvent → ℕ) (t : ScopeTable)

/-- The state of a scope that the Runtime does not serve yet. A remembered conversation is
resumed. -/
def newState (scope : String) : LogicalSessionState :=
  match t.releasedTaskScopes.get? scope with
  | none => { scope, id := t.nextID }
  | some released => .resume scope t.nextID released.markers

/-- Serve a scope, unless there are too many. -/
def ensureSessionRef? (scope : String) : Option ScopeTable :=
  if t.scopedSessions.contains scope then some t
  else if maxLogicalTaskScopes ≤ t.scopeOrder.length then none
  else some { t with
    releasedTaskScopes := t.releasedTaskScopes.erase scope
    releasedTaskOrder := t.releasedTaskOrder.filter (· ≠ scope)
    scopedSessions := t.scopedSessions.set (t.newState scope)
    scopeOrder := t.scopeOrder ++ [scope]
    nextID := t.nextID + 1 }

/-- The object with the state of a scope. -/
def objectOf (scope : String) : ℕ :=
  ((t.scopedSessions.get? scope).map LogicalSessionState.id).getD 0

/-- An event in the ledger of its scope. -/
def recordIn (buffer : List RoomEvent) (event : RoomEvent) (newScope : Bool)
    (session : LogicalSession) : LogicalSession :=
  let observed := session.observeEvent (scopeForRoomEvent event) t.participantID event
  let started := if newScope then observed.startAt event else observed
  if started.accepts event then started.accept (scopeForRoomEvent event) buffer event.sequence
  else started

/-- Record an event in the ledger that was found for its scope. An object that the scope no longer
has is written in vain, but what the event says about the Task is noted with the one it has. -/
def recordEvent (event : RoomEvent) (newScope : Bool) (id : ℕ) : ScopeTable :=
  let buffer := evictEvents wireLength (t.eventBuffer ++ [event])
  { t with
    eventBuffer := buffer
    scopedSessions := t.scopedSessions.modify (scopeForRoomEvent event)
      (fun state => state.updateSession fun session =>
        if state.id = id then t.recordIn buffer event newScope session
        else session.observeEvent (scopeForRoomEvent event) t.participantID event)
      fun state => state.key_updateSession _ }

/-- Whether a scope may be given back: its Task is over, and nothing of it is left. -/
def reclaimableTaskScope (scope : String) : Bool :=
  taskExecutionScope scope &&
    (t.scopedSessions.get? scope).any (fun state =>
      state.session.terminal && state.session.pendingAddressed.isEmpty &&
        state.session.pendingContexts.values.isEmpty) &&
    !t.activeTurns.contains scope &&
    !(t.turnRetries.any fun key => key.1 = scope) &&
    !(t.closedTurnRecovery.any fun key => key.1 = scope)

/-- The finished Tasks in the order of their admission. Those to which a Human handed a conversation
off come last. -/
def terminalReclaimCandidates : List ReclaimCandidate :=
  let finished := t.scopeOrder.filter fun scope =>
    taskExecutionScope scope && (t.scopedSessions.get? scope).any (·.session.terminal)
  let candidates := finished.map fun scope =>
    { scope, adopted := t.adoptedScopes.contains scope : ReclaimCandidate }
  candidates.filter (!·.adopted) ++ candidates.filter (·.adopted)

/-- Remove a scope. -/
def releaseTerminalTaskScope (scope : String) : ScopeTable :=
  { t with
    scopedSessions := t.scopedSessions.erase scope
    scopeOrder := t.scopeOrder.filter (· ≠ scope)
    turnRetries := t.turnRetries.filter (·.1 ≠ scope)
    closedTurnRecovery := t.closedTurnRecovery.filter (·.1 ≠ scope) }

/-- The scopes under which conversations are remembered, once one more is. -/
def rememberedOrder (scope : String) : List String :=
  if t.releasedTaskScopes.contains scope then t.releasedTaskOrder
  else t.releasedTaskOrder ++ [scope]

/-- Remember a conversation that was given back. The oldest ones are forgotten. -/
def rememberReleasedConversation (released : ReleasedConversation) : ScopeTable :=
  let kept := KeyedMap.evictOldest maxReleasedTaskScopes (t.releasedTaskScopes.set released)
    (t.rememberedOrder released.scope)
  { t with releasedTaskScopes := kept.1, releasedTaskOrder := kept.2 }

end ScopeTable

/-! ## Goroutines -/

/-- How far the handler of an event has come that found the Runtime full. -/
inductive AcceptPhase where
  | listing
  | trying (candidates : List ReclaimCandidate)
  -- The adapter gave the conversation back, and may have kept it.
  | releasing (candidate : ReclaimCandidate) (retained : Bool)
  | remembering (released : ReleasedConversation)
  | retrying
  -- The scope of the event is served, and the event is recorded next.
  | recording (id : ℕ)
deriving DecidableEq

/-- The handler of an event that found the Runtime full. -/
structure Acceptor where
  event : RoomEvent
  phase : AcceptPhase := .listing
deriving DecidableEq

namespace Acceptor

variable (acceptor : Acceptor)

/-- The scope of an event. -/
def scope : String := scopeForRoomEvent acceptor.event

/-- The conversation that is not remembered yet. -/
def remembers? : Option ReleasedConversation :=
  match acceptor.phase with
  | .remembering released => some released
  | _ => none

/-- The scope that is served for an event which is not recorded yet, and its object. -/
def records? : Option (String × ℕ) :=
  match acceptor.phase with
  | .recording id => some (acceptor.scope, id)
  | _ => none

end Acceptor

/-- The critical sections of turns and settlements that change the ledger of a scope. -/
inductive SessionWork where
  | lookUp (target : ℕ)
  | recover (target : ℕ) (events : List RoomEvent)
  | acknowledge (target through generation : ℕ)
  | ackPending (sequence : ℕ)
  | discard
  | observe (generation target : ℕ)
  | markSteerPriority (sequence : ℕ)
  | noteTerminal
  | acknowledgeTranscripts (meeting live : ℕ)

/-- The changes of what holds a scope besides its ledger. -/
inductive Bookkeeping where
  | beginTurnLane (scope : String)
  | finishTurnLane (scope : String)
  | scheduleTurnRetry (scope : String) (target : ℕ)
  | clearTurnRetry (scope : String) (target : ℕ)
  | closeTurnRecovery (scope : String) (target : ℕ)
  | forgetTurnRecovery (scope : String) (target : ℕ)
  | adopt (scope : String)
  | forgetIdentity (scope : String)

/-- The table, the handlers at work, and the record of the run. -/
structure ScopeRun where
  table : ScopeTable
  acceptors : List Acceptor := []
  -- The instructions that the conversation of each scope consumed.
  consumed : List (String × ℕ) := []
  -- The markers that each scope had when it was removed last.
  givenBack : KeyedMap (String × DeliveryMarkers) := .empty

/-- The critical sections of the handler of an event after its first one. -/
inductive AcceptStep where
  | list
  -- The conversation of the candidate may be executing, and the adapter may refuse to release it.
  | tryCandidate (bound : Bool) (answer : Option Bool)
  | release
  | remember
  | retry
  | record

/-- The critical sections. -/
inductive ScopeStep where
  | accept (event : RoomEvent)
  | goOn (index : ℕ) (step : AcceptStep)
  | work (scope : String) (work : SessionWork)
  | book (change : Bookkeeping)
  | fence
  | stop

/-- What a section does to the state of a scope. -/
def SessionWork.apply (buffer : List RoomEvent) (state : LogicalSessionState) :
    SessionWork → LogicalSessionState
  | .lookUp target => state.updateSession fun session => session.lookUp state.scope buffer target
  | .recover target events => state.updateSession fun session => session.recover target events
  | .acknowledge target through generation =>
    state.updateSession fun session => session.acknowledge target through generation
  | .ackPending sequence => state.updateSession fun session => session.ackPending sequence
  | .discard => state.updateSession LogicalSession.discard
  | .observe generation target => state.observe generation target
  | .markSteerPriority sequence =>
    state.updateSession fun session => session.markSteerPriority sequence
  | .noteTerminal => state.updateSession fun session => { session with terminal := true }
  | .acknowledgeTranscripts meeting live => state.acknowledgeTranscripts meeting live

/-- The instructions that leave a ledger because they were consumed. -/
def SessionWork.consumes (state : LogicalSessionState) : SessionWork → List ℕ
  | .acknowledge target through generation =>
    ((state.session.bootstrap generation).recordDelivery target through).deliveredPrefix
  | _ => []

/-- Whether a section puts another conversation in the place of that of a scope. -/
def SessionWork.replaces (state : LogicalSessionState) : SessionWork → Bool
  | .observe generation _ => state.replacedBy generation
  | _ => false

lemma SessionWork.key_apply (buffer : List RoomEvent) (state : LogicalSessionState)
    (work : SessionWork) : Keyed.key (work.apply buffer state) = Keyed.key state := by
  cases work <;> rfl

namespace ScopeTable

variable (t : ScopeTable)

/-- The sections that change what holds a scope besides its ledger. -/
def book : Bookkeeping → ScopeTable
  | .beginTurnLane scope => { t with activeTurns := scope :: t.activeTurns }
  | .finishTurnLane scope => { t with activeTurns := t.activeTurns.erase scope }
  | .scheduleTurnRetry scope target => { t with turnRetries := (scope, target) :: t.turnRetries }
  | .clearTurnRetry scope target =>
    { t with turnRetries := t.turnRetries.filter (· ≠ (scope, target)) }
  | .closeTurnRecovery scope target =>
    { t with closedTurnRecovery := (scope, target) :: t.closedTurnRecovery }
  | .forgetTurnRecovery scope target =>
    { t with closedTurnRecovery := t.closedTurnRecovery.filter (· ≠ (scope, target)) }
  | .adopt scope => { t with adoptedScopes := scope :: t.adoptedScopes }
  | .forgetIdentity scope => { t with adoptedScopes := t.adoptedScopes.filter (· ≠ scope) }

/-- A section changes the state of a scope. -/
def workOn (scope : String) (work : SessionWork) : ScopeTable :=
  { t with
    scopedSessions := t.scopedSessions.modify scope (fun state => work.apply t.eventBuffer state)
      fun state => work.key_apply t.eventBuffer state }

end ScopeTable

/-! ## Steps -/

namespace ScopeRun

variable (wireLength : RoomEvent → ℕ) (s : ScopeRun)

/-- A handler goes on. -/
def goOn (index : ℕ) (acceptor : Acceptor) (phase : AcceptPhase) : ScopeRun :=
  { s with acceptors := s.acceptors.set index { acceptor with phase } }

/-- A handler is done. -/
def finish (index : ℕ) : ScopeRun :=
  { s with acceptors := s.acceptors.eraseIdx index }

/-- Forget what the conversations of some scopes consumed. -/
def forget (gone : String → Bool) : ScopeRun :=
  { s with consumed := s.consumed.filter fun entry => !gone entry.1 }

/-- The first section of `acceptEvent`. The ledger of the Room is not in the table. -/
def accept (event : RoomEvent) : ScopeRun :=
  let scope := scopeForRoomEvent event
  if s.table.stopped ∨ s.table.admissionsClosed ∨ scope = "" then s
  else if scope = roomScope then
    { s with table := { s.table with
        eventBuffer := evictEvents wireLength (s.table.eventBuffer ++ [event]) } }
  else
    (s.table.ensureSessionRef? scope).elim { s with acceptors := s.acceptors ++ [{ event }] }
      fun table =>
        { s with
          table := table.recordEvent wireLength event (!s.table.scopedSessions.contains scope)
            (table.objectOf scope) }

/-- The next section of the handler of an event. -/
def acceptorNext? (index : ℕ) (acceptor : Acceptor) (step : AcceptStep) : Option ScopeRun :=
  match acceptor.phase, step with
  | .listing, .list => some (s.goOn index acceptor (.trying s.table.terminalReclaimCandidates))
  | .trying [], .tryCandidate _ _ => some (s.finish index)
  | .trying (candidate :: candidates), .tryCandidate bound answer =>
    if bound ∨ s.table.reclaimableTaskScope candidate.scope = false then
      some (s.goOn index acceptor (.trying candidates))
    else some (s.goOn index acceptor
      (answer.elim (.trying candidates) fun retained => .releasing candidate retained))
  | .releasing candidate retained, .release =>
    if s.table.reclaimableTaskScope candidate.scope = false then some (s.finish index)
    else (s.table.scopedSessions.get? candidate.scope).map fun state =>
      let removed := { s with
        table := s.table.releaseTerminalTaskScope candidate.scope
        givenBack := s.givenBack.set (candidate.scope, state.markers) }
      if retained then
        removed.goOn index acceptor (.remembering
          { scope := candidate.scope, markers := state.markers, adopted := candidate.adopted })
      else (removed.forget (· = candidate.scope)).goOn index acceptor .retrying
  | .remembering released, .remember =>
    let table := s.table.rememberReleasedConversation released
    some (({ s with table }.forget fun scope =>
      (s.table.rememberedOrder released.scope).contains scope &&
        !table.releasedTaskOrder.contains scope).goOn index acceptor .retrying)
  | .retrying, .retry =>
    some ((s.table.ensureSessionRef? acceptor.scope).elim (s.finish index) fun table =>
      { s with table }.goOn index acceptor (.recording (table.objectOf acceptor.scope)))
  | .recording id, .record =>
    some ({ s with table := s.table.recordEvent wireLength acceptor.event true id }.finish index)
  | _, _ => none

/-- A section of a turn or a settlement. -/
def work (scope : String) (work : SessionWork) : ScopeRun :=
  match s.table.scopedSessions.get? scope with
  | none => s
  | some state =>
    let kept := if work.replaces state then s.forget (· = scope) else s
    { kept with
      table := s.table.workOn scope work
      consumed := kept.consumed ++ (work.consumes state).map fun sequence => (scope, sequence) }

/-- One critical section. -/
def next? : ScopeStep → Option ScopeRun
  | .accept event => some (s.accept wireLength event)
  | .goOn index step =>
    s.acceptors[index]?.bind fun acceptor => s.acceptorNext? wireLength index acceptor step
  | .work scope work => some (s.work scope work)
  | .book change => some { s with table := s.table.book change }
  | .fence => some { s with table := { s.table with admissionsClosed := true } }
  | .stop => some { s with table := { s.table with stopped := true, admissionsClosed := true } }

end ScopeRun

/-- The runs of a Runtime that has joined a Room. -/
def scopeSystem (wireLength : RoomEvent → ℕ) : TransitionSystem ScopeRun ScopeStep where
  init s := ∃ participantID, s = { table := { participantID } }
  step s step s' := s.next? wireLength step = some s'

end Free4Chat
