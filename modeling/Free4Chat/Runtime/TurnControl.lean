import Free4Chat.Runtime.Process

/-!
# Activities and Interrupts

What a Human sees of a running turn, and how it is interrupted. A turn is the activity of its scope
from `beginActivity`, just before the Harness is called, until `finishActivity`, after the call has
returned and the turn has looked for an interrupt. An interrupt is accepted for the turn that is the
activity of its scope at that moment.

* `ActivityTurn`, `beginActivity`, `setActiveActivityState` and `observeHarnessActivity`: the
  activities of the scopes.
* `TurnExecution`: what becomes of one execution of a turn.
* `ControlRun`: the goroutines of the Runtime, with the activities and the executions.
* `ControlRun.next?`: one step. A step of the Runtime is taken where `runTurn` allows it.
* `controlSystem`: the transition system.
-/

namespace Free4Chat

/-! ## Activities -/

/-- The coarse activity that an Agent shows. -/
inductive AgentActivityState where
  | working
  | waitingApproval
  | queued
deriving DecidableEq

/-- The activity of a scope, and the turn that it belongs to. -/
structure ActivityTurn where
  scope : String
  state : AgentActivityState
  sequence : ℕ
deriving DecidableEq

instance : Keyed ActivityTurn String where
  key := ActivityTurn.scope

@[simp]
lemma ActivityTurn.key_eq (activity : ActivityTurn) : Keyed.key activity = activity.scope := rfl

/-- Whether the activity of a scope is shown. -/
def validActivityScope (scope : String) : Bool :=
  normalizeScope scope = roomScope || 4 ≤ (taskRequestIDForScope scope).utf8ByteSize

section Activities

variable (activities : KeyedMap ActivityTurn)

/-- A turn becomes the activity of its scope. -/
def beginActivity (scope : String) (turnSequence : ℕ) : KeyedMap ActivityTurn :=
  if validActivityScope scope ∧ 0 < turnSequence then
    activities.set { scope, state := .working, sequence := turnSequence }
  else activities

/-- A turn of the Room waits for a lane. -/
def queueActivity (scope : String) (turnSequence : ℕ) : KeyedMap ActivityTurn :=
  if scope = roomScope ∧ 0 < turnSequence then
    activities.set { scope, state := .queued, sequence := turnSequence }
  else activities

/-- The turn of a scope waits for an approval, or works again. -/
def setActiveActivityState (scope : String) (state : AgentActivityState) :
    KeyedMap ActivityTurn :=
  match activities.get? scope with
  | none => activities
  | some current =>
    if validActivityScope scope = false ∨ current.state = .queued ∨ current.state = state then
      activities
    else activities.set { current with state }

/-- The Harness tells what the turn of a scope does. -/
def observeHarnessActivity (scope : String) (state : AgentActivityState) :
    KeyedMap ActivityTurn :=
  match activities.get? scope with
  | none => activities
  | some current =>
    if validActivityScope scope = false ∨ current.state = state then activities
    else activities.set { current with state }

/-- Whether a turn is the activity of its scope. -/
def isActivityOf (scope : String) (turnSequence : ℕ) : Bool :=
  (activities.get? scope).any fun current => current.sequence = turnSequence

/-- A turn is no longer the activity of its scope. -/
def finishActivity (scope : String) (turnSequence : ℕ) : KeyedMap ActivityTurn :=
  if isActivityOf activities scope turnSequence then activities.erase scope else activities

end Activities

/-! ## Executions -/

/-- How the settlement of a turn goes. -/
inductive TurnEnding where
  -- The Runtime shuts down.
  | abandoned
  -- The conversation executes another turn.
  | deferred
  | interrupted
  | failed
  | succeeded
deriving DecidableEq

/-- How a turn is settled after the call of the Harness. -/
def TurnOutcome.ending (outcome : TurnOutcome) (isShuttingDown interrupted : Bool) : TurnEnding :=
  if isShuttingDown then .abandoned
  else match outcome, interrupted with
    | .busy, _ => .deferred
    | _, true => .interrupted
    | .terminalFailure, false | .failed _, false => .failed
    | .succeeded, false => .succeeded

/-- One execution of a turn, since it became the activity of its scope. -/
structure TurnExecution where
  scope : String
  target : ℕ
  -- `cancelActiveTaskTurn` reported an interrupt as accepted.
  accepted : Bool := false
  ending : Option TurnEnding := none
  -- The turn is no longer the activity of its scope.
  finished : Bool := false
  -- The reply was published to the Room.
  replied : Bool := false
deriving DecidableEq

instance : Keyed TurnExecution String where
  key := TurnExecution.scope

@[simp]
lemma TurnExecution.key_eq (execution : TurnExecution) :
    Keyed.key execution = execution.scope := rfl

/-- The goroutines of the Runtime, what its scopes show, and the executions of turns: those whose
turns are in their lanes, and those that are over. -/
structure ControlRun where
  run : RuntimeRun
  activities : KeyedMap ActivityTurn := .empty
  current : KeyedMap TurnExecution := .empty
  past : List TurnExecution := []

/-- The steps of the Runtime and of those that watch or interrupt it. -/
inductive ControlStep where
  | base (step : RuntimeStep)
  | beginActivity (index : ℕ)
  -- A Human interrupts a turn. The cancellation may not reach the Harness.
  | interrupt (taskRequestID : String) (turnSequence : ℕ) (dispatched : Bool)
  | finishActivity (index : ℕ)
  | queueActivity (scope : String) (turnSequence : ℕ)
  | setActiveActivityState (scope : String) (state : AgentActivityState)
  | observeHarnessActivity (scope : String) (state : AgentActivityState)
  | clearActivity (scope : String)
  | reply (index : ℕ)

namespace ControlRun

variable (wireLength : RoomEvent → ℕ) (s : ControlRun)

/-- Whether `runTurn` takes a step at its place. The Harness is called once the turn is the activity
of its scope, and the turn is settled once it is no longer. -/
def permitsTurn (turn : TurnRun) : TurnStep → Bool
  | .respond accepted => accepted == s.current.contains turn.scope
  | .settle _ | .finish => (s.current.get? turn.scope).all (·.finished)
  | _ => true

/-- Whether a step of the Runtime is taken as such. Interrupts are steps of their own. -/
def permits : RuntimeStep → Bool
  | .interrupt .. | .clearActivity _ | .steering _ (.refuse true) => false
  | .turn index turnStep => s.run.turns[index]?.all fun turn => s.permitsTurn turn turnStep
  | _ => true

/-- Change the execution of a scope. -/
def updateExecution (scope : String) (change : TurnExecution → TurnExecution) : ControlRun :=
  { s with
    current := s.current.modify scope
      (fun execution => { change execution with scope := execution.scope }) fun _ => rfl }

/-- What a step of a turn does to its execution. -/
def recordTurn (turn : TurnRun) : TurnStep → ControlRun
  | .returned outcome =>
    s.updateExecution turn.scope fun execution =>
      { execution with
        ending := some (outcome.ending s.run.runtime.isShuttingDown
          (s.run.runtime.turnInterrupted turn.scope turn.target)) }
  | .finish =>
    { s with
      current := s.current.erase turn.scope
      past := s.past ++ (s.current.get? turn.scope).toList }
  | _ => s

/-- What a step of the Runtime does to the executions. -/
def record : RuntimeStep → ControlRun
  | .turn index turnStep =>
    s.run.turns[index]?.elim s fun turn => s.recordTurn turn turnStep
  | _ => s

/-- One step. -/
def next? : ControlStep → Option ControlRun
  | .base step =>
    if s.permits step then
      (s.run.next? wireLength step).map fun run => { s.record step with run }
    else none
  | .beginActivity index =>
    s.run.turns[index]?.bind fun turn =>
      match turn.phase with
      | .rendered .. =>
        if s.current.contains turn.scope then none
        else some { s with
          activities := Free4Chat.beginActivity s.activities turn.scope turn.target
          current := s.current.set { scope := turn.scope, target := turn.target } }
      | _ => none
  | .interrupt taskRequestID turnSequence dispatched =>
    let scope := taskScopeForRequestID taskRequestID
    if scope = "" ∨ isActivityOf s.activities scope turnSequence = false ∨ dispatched = false then
      some s
    else (s.run.next? wireLength (.interrupt scope turnSequence)).map fun run =>
      { s.updateExecution scope fun execution =>
          { execution with
            accepted := execution.accepted || execution.target = turnSequence } with run }
  | .finishActivity index =>
    s.run.turns[index]?.bind fun turn =>
      if (s.current.get? turn.scope).any fun execution =>
          execution.ending.isSome && !execution.finished then
        let finished :=
          { s.updateExecution turn.scope fun execution => { execution with finished := true } with
            activities := Free4Chat.finishActivity s.activities turn.scope turn.target }
        if isActivityOf s.activities turn.scope turn.target ∧
            s.run.runtime.turnInterrupted turn.scope turn.target then
          (s.run.next? wireLength (.clearActivity turn.scope)).map fun run =>
            { finished with run }
        else some finished
      else none
  | .queueActivity scope turnSequence =>
    some { s with activities := Free4Chat.queueActivity s.activities scope turnSequence }
  | .setActiveActivityState scope state =>
    some { s with activities := Free4Chat.setActiveActivityState s.activities scope state }
  | .observeHarnessActivity scope state =>
    some { s with activities := Free4Chat.observeHarnessActivity s.activities scope state }
  | .clearActivity scope =>
    (s.run.next? wireLength (.clearActivity scope)).map fun run =>
      { s with run, activities := s.activities.erase scope }
  | .reply index =>
    s.run.turns[index]?.bind fun turn =>
      if turn.phase = .settling [] ∧ (s.current.get? turn.scope).any fun execution =>
          execution.ending = some .succeeded && execution.finished && !execution.replied then
        some (s.updateExecution turn.scope fun execution => { execution with replied := true })
      else none

end ControlRun

/-- The runs of a Runtime that has joined a Room. -/
def controlSystem (wireLength : RoomEvent → ℕ) : TransitionSystem ControlRun ControlStep where
  init s := ∃ participantID cursor turnLanes,
    s = { run := { runtime := firstJoin participantID cursor turnLanes, received := cursor } }
  step s step s' := s.next? wireLength step = some s'

end Free4Chat
