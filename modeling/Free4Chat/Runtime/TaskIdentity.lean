import Free4Chat.Runtime.Ledger
import Free4Chat.Transition.Reachable

/-!
# Identities of Tasks

What must not change while a Task continues is kept by Task: its project, the controls selected for
it, and a conversation handed off to it. An identity is dated by the request of its Task, and is
dropped once the Room does not retain that request any more, unless the Task is live.

* `TaskIdentity` and `IdentityTable`: the identities, and the Tasks that are live.
* `IdentityTable.next?`: one critical section. `identitySystem`: the transition system.
* `IdentityTable.RetainsIdentities`: what should hold in every state that is reached.
-/

namespace Free4Chat

/-! ## State -/

/-- The state of a scope that is live, as far as its identity depends on it. -/
structure TaskScopeState where
  scope : String
  session : LogicalSession := {}
  -- The sequence of the request of the Task, once it was observed.
  admittedSequence : ℕ := 0

instance : Keyed TaskScopeState String where
  key := TaskScopeState.scope

/-- The identity of a Task. -/
structure TaskIdentity where
  scope : String
  -- The sequence of the request of the Task, or zero if it is not known.
  requestSequence : ℕ := 0
  projectCwd : String := ""
  modeID : String := ""
  configOptions : List (String × String) := []
  adopted : Bool := false
  adoptedLost : Bool := false
deriving DecidableEq

instance : Keyed TaskIdentity String where
  key := TaskIdentity.scope

/-- What a Human prepared for a Task: a new session in a project, or a conversation. -/
structure PendingSessionAdoption where
  cwd : String
  newSession : Bool
  modeID : String := ""
  configOptions : List (String × String) := []
  -- A project is prepared only with its directory.
  project : newSession = true → cwd ≠ ""
deriving DecidableEq

/-- The identities, and the Tasks that are live. -/
structure IdentityTable where
  participantID : String
  scopedSessions : KeyedMap TaskScopeState := .empty
  taskIdentities : KeyedMap TaskIdentity := .empty
  -- Below this sequence the Room retains nothing.
  floor : ℕ := 0
  -- The Tasks whose requests were observed.
  observed : List String := []

/-- One step. -/
inductive IdentityStep where
  | ensureSessionRef (scope : String)
  | acceptEvent (event : RoomEvent)
  | noteTaskScopeTerminal (scope : String)
  | bindSessionAdoption (scope : String) (adoption : PendingSessionAdoption)
  | markAdoptedScopeUnavailable (scope : String)
  | noteAdoptedConversationGone (scope : String)
  | noteAdoptedScopeLoss (failed : Option (List String))
  | releaseTerminalTaskScope (scope : String)
  | pruneTaskIdentitiesBelow (floor : ℕ)

namespace IdentityTable

variable (s : IdentityTable)

/-! ## Events -/

/-- A scope is served, unless there are too many. -/
def ensureSessionRef? (scope : String) : Option IdentityTable :=
  if scope = "" then none
  else if scope = roomScope ∨ s.scopedSessions.contains scope = true then some s
  else if maxLogicalTaskScopes ≤ s.scopedSessions.size then none
  else some { s with scopedSessions := s.scopedSessions.set { scope } }

/-- Whether an event is the request of the Task of its scope. -/
def isRequest (event : RoomEvent) : Bool :=
  (humanTaskRequest? s.participantID event).any fun collab =>
    collab.requestId = taskRequestIDForScope (scopeForRoomEvent event)

/-- The state of a scope once an event is recorded. -/
def observeIn (event : RoomEvent) (state : TaskScopeState) : TaskScopeState :=
  { state with
    session := state.session.observeEvent (scopeForRoomEvent event) s.participantID event
    admittedSequence :=
      if s.isRequest event ∧ state.admittedSequence = 0 then event.sequence
      else state.admittedSequence }

/-- Whether an event dates the identity of its Task. -/
def datesIdentity (event : RoomEvent) : Bool :=
  s.isRequest event &&
    (s.scopedSessions.get? (scopeForRoomEvent event)).any (·.admittedSequence = 0)

/-- An event is recorded in the state of its scope. -/
def recordEvent (event : RoomEvent) : IdentityTable :=
  { s with
    scopedSessions :=
      s.scopedSessions.modify (scopeForRoomEvent event) (s.observeIn event) fun _ => rfl
    taskIdentities :=
      if s.datesIdentity event then
        s.taskIdentities.modify (scopeForRoomEvent event)
          (fun identity => { identity with requestSequence := event.sequence }) fun _ => rfl
      else s.taskIdentities
    observed := if s.isRequest event then scopeForRoomEvent event :: s.observed else s.observed }

/-- An event is accepted. The request of a Task has one sequence. The scope of the event, which is
normalized already, is admitted first. -/
def acceptEvent? (canonical : String → ℕ) (event : RoomEvent) : Option IdentityTable :=
  if s.isRequest event = true ∧ event.sequence ≠ canonical (scopeForRoomEvent event) then none
  else (s.ensureSessionRef? (scopeForRoomEvent event)).map (·.recordEvent event)

/-- A Task is over. -/
def noteTaskScopeTerminal (scope : String) : IdentityTable :=
  { s with
    scopedSessions := s.scopedSessions.modify scope
      (fun state => { state with session := { state.session with terminal := true } })
      fun _ => rfl }

/-- A scope is given back. Its identity stays. -/
def releaseTerminalTaskScope? (scope : String) : Option IdentityTable :=
  if taskExecutionScope scope ∧ (s.scopedSessions.get? scope).any (·.session.terminal) then
    some { s with scopedSessions := s.scopedSessions.erase scope }
  else none

/-! ## Identities -/

/-- The sequence by which a new identity is dated. -/
def admittedSequence (scope : String) : ℕ :=
  ((s.scopedSessions.get? scope).map TaskScopeState.admittedSequence).getD 0

/-- `recordTaskIdentityLocked`: a Task has an identity. -/
def recordTaskIdentity (scope : String) : IdentityTable :=
  if s.taskIdentities.contains scope then s
  else
    { s with
      taskIdentities :=
        s.taskIdentities.set { scope, requestSequence := s.admittedSequence scope } }

/-- What an identity records of a preparation. -/
def bindIdentity (adoption : PendingSessionAdoption) (identity : TaskIdentity) : TaskIdentity :=
  let controlled :=
    { identity with
      modeID := if adoption.modeID ≠ "" then adoption.modeID else identity.modeID
      configOptions :=
        if adoption.configOptions ≠ [] then adoption.configOptions else identity.configOptions }
  if adoption.newSession then { controlled with projectCwd := adoption.cwd }
  else { controlled with adopted := true, adoptedLost := false }

lemma bindIdentity_eq (adoption : PendingSessionAdoption) (identity : TaskIdentity) :
    (bindIdentity adoption identity).scope = identity.scope ∧
      (bindIdentity adoption identity).requestSequence = identity.requestSequence := by
  rw [bindIdentity]
  dsimp only
  split_ifs <;> exact ⟨rfl, rfl⟩

/-- A preparation is bound to a Task. -/
def bindSessionAdoption (scope : String) (adoption : PendingSessionAdoption) : IdentityTable :=
  let s := s.recordTaskIdentity scope
  { s with
    taskIdentities := s.taskIdentities.modify scope (bindIdentity adoption) fun identity =>
      (bindIdentity_eq adoption identity).1 }

/-- The conversation handed off to a Task is gone. -/
def loseConversation (scope : String) : IdentityTable :=
  let s := s.recordTaskIdentity scope
  { s with
    taskIdentities := s.taskIdentities.modify scope
      (fun identity => { identity with adopted := true, adoptedLost := true }) fun _ => rfl }

/-- The conversations that a failed process owned are lost, or all of them. -/
def noteAdoptedScopeLoss (failed : Option (List String)) : IdentityTable :=
  { s with
    taskIdentities := s.taskIdentities.map
      (fun identity =>
        { identity with
          adoptedLost := identity.adoptedLost ||
            identity.adopted && failed.all fun scopes => scopes.contains identity.scope })
      fun _ => rfl }

/-- Whether a sweep keeps an identity. -/
def keepsIdentity (floor : ℕ) (identity : TaskIdentity) : Bool :=
  identity.requestSequence = 0 || floor ≤ identity.requestSequence ||
    s.scopedSessions.contains identity.scope

/-- `pruneTaskIdentitiesBelow`. -/
def pruneTaskIdentitiesBelow (floor : ℕ) : IdentityTable :=
  { s with taskIdentities := s.taskIdentities.filter (s.keepsIdentity floor), floor }

/-! ## Steps -/

/-- One step. The floor of the Room does not fall. -/
def next? (canonical : String → ℕ) : IdentityStep → Option IdentityTable
  | .ensureSessionRef scope => s.ensureSessionRef? (normalizeScope scope)
  | .acceptEvent event => s.acceptEvent? canonical event
  | .noteTaskScopeTerminal scope => some (s.noteTaskScopeTerminal scope)
  | .bindSessionAdoption scope adoption => some (s.bindSessionAdoption scope adoption)
  | .markAdoptedScopeUnavailable scope => some (s.loseConversation scope)
  | .noteAdoptedConversationGone scope => some (s.loseConversation scope)
  | .noteAdoptedScopeLoss failed => some (s.noteAdoptedScopeLoss failed)
  | .releaseTerminalTaskScope scope => s.releaseTerminalTaskScope? scope
  | .pruneTaskIdentitiesBelow floor =>
    if s.floor ≤ floor then some (s.pruneTaskIdentitiesBelow floor) else none

end IdentityTable

/-- Runs of a Runtime in a Room whose Tasks have these requests. -/
def identitySystem (participantID : String) (canonical : String → ℕ) :
    TransitionSystem IdentityTable IdentityStep where
  init s := s = { participantID }
  step s step s' := s.next? canonical step = some s'

/-! ## What should hold -/

/-- What was selected for a Task is still there. -/
structure TaskIdentity.KeptIn (identity later : TaskIdentity) : Prop where
  scope : later.scope = identity.scope
  projectCwd : identity.projectCwd ≠ "" → later.projectCwd ≠ ""
  adopted : identity.adopted = true → later.adopted = true
  modeID : identity.modeID ≠ "" → later.modeID ≠ ""
  configOptions : identity.configOptions ≠ [] → later.configOptions ≠ []

/-- Identities are retained exactly as long as the Room can trigger their Tasks. -/
structure IdentityTable.RetainsIdentities (canonical : String → ℕ) (s : IdentityTable) : Prop where
  -- A sweep drops only what is not live, and whose request is below the floor.
  pruned : ∀ floor, ∀ identity ∈ s.taskIdentities.values,
    identity ∉ (s.pruneTaskIdentitiesBelow floor).taskIdentities.values →
      s.scopedSessions.contains identity.scope = false ∧ canonical identity.scope < floor
  -- Dates are those of the requests.
  dated : ∀ identity ∈ s.taskIdentities.values, identity.requestSequence ≠ 0 →
    identity.requestSequence = canonical identity.scope
  -- What was selected for a Task is kept while the Room retains its request.
  kept : ∀ step s', s.next? canonical step = some s' → ∀ identity ∈ s.taskIdentities.values,
    s'.floor ≤ canonical identity.scope → ∃ later ∈ s'.taskIdentities.values, identity.KeptIn later
  -- After a sweep only what may be triggered, or was not observed, is left.
  swept : ∀ floor, ∀ identity ∈ (s.pruneTaskIdentitiesBelow floor).taskIdentities.values,
    s.scopedSessions.contains identity.scope = true ∨ floor ≤ canonical identity.scope ∨
      identity.scope ∉ s.observed

/-- The Tasks for which a step may create an identity. -/
def IdentityStep.records? : IdentityStep → Option String
  | bindSessionAdoption scope _ => some scope
  | markAdoptedScopeUnavailable scope => some scope
  | noteAdoptedConversationGone scope => some scope
  | _ => none

/-- The condition on a step: a new identity of a Task whose request was observed is dated. -/
def IdentityTable.datesNew (s : IdentityTable) (step : IdentityStep) : Bool :=
  step.records?.all fun scope =>
    s.taskIdentities.contains scope || !s.observed.contains scope ||
      s.admittedSequence scope ≠ 0

end Free4Chat
