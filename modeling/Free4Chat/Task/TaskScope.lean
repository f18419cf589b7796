import Free4Chat.Data.JsValue
import Free4Chat.Data.OrderedSet
import Free4Chat.Room.Types
import Mathlib.Data.List.Sort

/-!
# Task Scope

Task participation is derived from the retained Room log: `buildTaskProjectionIndex` folds the
messages in sequence order into one entry per Task, and the projections decide from the index
which Agent sees which event.

* `buildTaskProjectionIndex`: the index of a log under a participants map.
* `resolveTaskRequest`, `resolveHumanTaskTargets` and `resolveAgentTaskTargets`: routing.
* `projectTaskEvent`: live and historical visibility of a message.
* `toAgentEvent` and `toAttachmentEvent`: the event an Agent receives, if any.
* `normalizeTaskExecution`: admission of an Agent's execution state.
-/

namespace Free4Chat

open JsString (nonempty?)

/-! ## The projection index -/

/-- One Task of the index. -/
structure TaskProjectionTask where
  request : CollabEvent
  participatingAgentIds : OrderedSet String
  agentsBySequence : KeyedMap (ℕ × OrderedSet String)
deriving DecidableEq

instance : Keyed TaskProjectionTask String where
  key task := task.request.requestId

@[simp]
lemma TaskProjectionTask.key_eq (task : TaskProjectionTask) :
    Keyed.key task = task.request.requestId := rfl

/-- The Tasks of a log, by request id. -/
structure TaskProjectionIndex where
  tasks : KeyedMap TaskProjectionTask
deriving DecidableEq

/-- Whether an Agent participates in a Task. -/
def taskAgentParticipates (index : TaskProjectionIndex) (requestId participantId : String) :
    Bool :=
  (index.tasks.get? requestId).any fun task => participantId ∈ task.participatingAgentIds

/-- The Task a message is correlated with. -/
def taskRequestIdFor (message : RoomMessage) : Option String :=
  message.taskRequestId <|> message.collab.map CollabEvent.requestId

/-- Whether the participant under an id has a kind. -/
def hasKind (participants : Participants) (kind : ParticipantKind) (participantId : String) :
    Bool :=
  (participants.get? participantId).any fun participant => participant.kind = kind

/-- Whether an id is that of a connected Agent. -/
def connectedAgent (participants : Participants) (participantId : String) : Bool :=
  (participants.get? participantId).any fun participant =>
    participant.kind = .agent && participant.connected

/-- The Agent endpoint of a Task request. It is never replaced by another participating Agent. -/
def initialTaskAgentParticipantId (request : CollabEvent) (participants : Participants) :
    Option String :=
  (participants.get? request.targetParticipantId).bind fun target =>
    if target.kind = .agent then some target.id
    else ((participants.get? request.fromParticipantId).filter (·.kind = .agent)).map (·.id)

/-- Add one endpoint of a request if it is an Agent. -/
def addAgentEndpoint (participants : Participants) (agents : OrderedSet String)
    (participantId : String) : OrderedSet String :=
  if hasKind participants .agent participantId then agents.add participantId else agents

/-- The index entry that a request message opens. -/
def openTask (participants : Participants) (message : RoomMessage) (collab : CollabEvent) :
    TaskProjectionTask :=
  let agents := addAgentEndpoint participants
    (addAgentEndpoint participants .empty collab.fromParticipantId) collab.targetParticipantId
  { request := collab
    participatingAgentIds := agents
    agentsBySequence := KeyedMap.empty.set (message.sequence, agents) }

/-- Whether the sender of a Task message may bring Agents into the Task. -/
def senderMayExtendTask (participants : Participants) (task : TaskProjectionTask)
    (message : RoomMessage) : Bool :=
  (participants.get? message.peerId).any fun sender =>
    sender.kind = .human ||
      (sender.kind = .agent && sender.id ∈ task.participatingAgentIds)

/-- The Agents that a Task message brings into the Task. Only Task text extends participation, and
targets that are not Agents are passed over. -/
def admittedTargets (participants : Participants) (task : TaskProjectionTask)
    (message : RoomMessage) : List String :=
  if (nonempty? message.taskRequestId).isSome && senderMayExtendTask participants task message then
    (message.targets.getD []).filter (hasKind participants .agent)
  else []

/-- The index entry of a Task after one more message of the Task. -/
def observeTaskMessage (participants : Participants) (task : TaskProjectionTask)
    (message : RoomMessage) : TaskProjectionTask :=
  let admitted := admittedTargets participants task message
  { task with
    participatingAgentIds := task.participatingAgentIds.addAll admitted
    agentsBySequence := task.agentsBySequence.set
      (message.sequence, task.participatingAgentIds.addAll admitted) }

/-- The request by which a message opens a Task that the index does not hold yet. -/
def openingRequest (index : TaskProjectionIndex) (message : RoomMessage) : Option CollabEvent :=
  message.collab.filter fun collab =>
    collab.kind = .request && !index.tasks.contains collab.requestId

/-- The index after one more message of the log. -/
def projectMessage (participants : Participants) (index : TaskProjectionIndex)
    (message : RoomMessage) : TaskProjectionIndex :=
  match openingRequest index message with
  | some collab => { tasks := index.tasks.set (openTask participants message collab) }
  | none =>
    match (nonempty? (taskRequestIdFor message)).bind index.tasks.get? with
    | some task => { tasks := index.tasks.set (observeTaskMessage participants task message) }
    | none => index

/-- Derives the Task index from the retained log. -/
def buildTaskProjectionIndex (messages : List RoomMessage) (participants : Participants) :
    TaskProjectionIndex :=
  (messages.insertionSort fun left right => left.sequence ≤ right.sequence).foldl
    (projectMessage participants) { tasks := .empty }

/-! ## Routing -/

/-- A resolved Task request. -/
structure TaskRequestResolution where
  requestId : String
  request : CollabEvent
  primaryAgentParticipantId : Option String
  agentParticipantIds : List String
deriving DecidableEq

/-- Resolves the id of a Task against the index. -/
def resolveTaskRequest (index : TaskProjectionIndex) (rawRequestId : JsValue)
    (participants : Participants) : Except String TaskRequestResolution :=
  match rawRequestId.asString? with
  | none => .error "invalid_task_request"
  | some raw =>
    let requestId := JsString.trim raw
    if requestId = "" then .error "invalid_task_request"
    else
      match index.tasks.get? requestId with
      | none => .error "unknown_task_request"
      | some task =>
        let agentParticipantIds :=
          task.participatingAgentIds.elems.filter (connectedAgent participants)
        .ok
          { requestId
            request := task.request
            primaryAgentParticipantId :=
              if connectedAgent participants task.request.targetParticipantId then
                some task.request.targetParticipantId
              else if connectedAgent participants task.request.fromParticipantId then
                some task.request.fromParticipantId
              else agentParticipantIds.head?
            agentParticipantIds }

/-- The explicit targets of a Task message: trimmed, without repetition, nonempty and few. -/
def normalizedExplicitTargets (rawTargets : JsValue) (maxTargets : ℕ) :
    Except String (Option (List String)) :=
  match rawTargets with
  | .undefined => .ok none
  | value =>
    match value.asStringArray? with
    | none => .error "invalid_task_targets"
    | some raw =>
      let targets := (raw.map JsString.trim).distinct
      if targets.any (· = "") then .error "invalid_task_targets"
      else if maxTargets < targets.length then .error "too_many_task_targets"
      else .ok (some targets)

/-- The targets of a Human's Task message. -/
def resolveHumanTaskTargets (resolution : TaskRequestResolution) (sender : RoomParticipant)
    (participants : Participants) (rawTargets : JsValue) (maxTargets : ℕ) :
    Except String (List String) := do
  if sender.kind ≠ .human ∨ !sender.connected then throw "task_sender_not_human"
  let targets ← normalizedExplicitTargets rawTargets maxTargets
  match targets.getD [] with
  | [] =>
    -- A Task that lost its endpoint never routes to another Agent implicitly.
    match resolution.primaryAgentParticipantId with
    | none => throw "task_target_not_in_room"
    | some primary => pure [primary]
  | validTargets =>
    for targetId in validTargets do
      match (participants.get? targetId).filter (·.connected) with
      | none => throw "task_target_not_in_room"
      | some target => if target.kind ≠ .agent then throw "task_target_not_agent"
    pure validTargets

/-- The targets of an Agent's Task message. -/
def resolveAgentTaskTargets (resolution : TaskRequestResolution) (sender : RoomParticipant)
    (participants : Participants) (rawTargets : JsValue) (maxTargets : ℕ) :
    Except String (List String) := do
  if sender.kind ≠ .agent ∨ !sender.connected ∨ sender.id ∉ resolution.agentParticipantIds then
    throw "task_target_mismatch"
  let targets ← normalizedExplicitTargets rawTargets maxTargets
  let validTargets := targets.getD []
  for targetId in validTargets do
    if targetId ≠ sender.id then
      if ((participants.get? targetId).filter (·.connected)).isNone then
        throw "task_target_not_in_room"
  pure (validTargets.filter (· ≠ sender.id))

/-! ## Visibility -/

/-- What the index decides about one message for one participant. -/
inductive TaskEventProjection where
  | ordinary
  | hidden
  | visible (scopeId : String) (addressed : Bool)
deriving DecidableEq, Repr

/-- Whether a message addresses a participant. -/
def addresses (message : RoomMessage) (participantId : String) : Bool :=
  participantId ∈ message.targets.getD []

/-- Whether a message closes a permission that the participant itself asked for. This is the one
event of a Task whose request is gone that is still delivered. -/
def isOwnPermissionTerminal (message : RoomMessage) (participantId : String) : Bool :=
  message.actionType = some "permission" &&
    (message.permission.any fun permission =>
      permission.isTerminal && permission.agentParticipantId = participantId) &&
    addresses message participantId

/-- The Agents to whom a message of a Task is visible. Bounded context reads are historical: they
admit every participating Agent, also to messages sent before it joined. -/
def visibleAgentIds (task : TaskProjectionTask) (message : RoomMessage) (historical : Bool) :
    OrderedSet String :=
  if historical then task.participatingAgentIds
  else ((task.agentsBySequence.get? message.sequence).map Prod.snd).getD .empty

/-- The decision about one message for one participant. -/
def projectTaskEvent (index : TaskProjectionIndex) (message : RoomMessage)
    (participantId : String) (historical : Bool) : TaskEventProjection :=
  match nonempty? (taskRequestIdFor message) with
  | none => .ordinary
  | some requestId =>
    match index.tasks.get? requestId with
    | none =>
      if isOwnPermissionTerminal message participantId then
        .visible s!"task:{requestId}" true
      else .hidden
    | some task =>
      if participantId ∈ visibleAgentIds task message historical then
        .visible s!"task:{requestId}" (addresses message participantId)
      else .hidden

/-- The sender shown on an event. -/
structure AgentEventParticipant where
  id : String
  name : String
  kind : ParticipantKind
deriving DecidableEq, Repr

/-- The type of an Agent event. -/
inductive AgentEventType where
  | text
  | action
  | image
deriving DecidableEq, Repr

/-- The metadata of an attachment shown on an event. -/
structure AgentEventAttachment where
  id : String
  fileName : String
  mimeType : String
  size : ℕ
  taskRequestId : Option String
deriving DecidableEq, Repr

/-- An event as an Agent receives it. -/
structure AgentEvent where
  sequence : ℕ
  type : AgentEventType
  scopeId : Option String
  participant : AgentEventParticipant
  text : Option String := none
  actionType : Option String := none
  collab : Option CollabEvent := none
  permission : Option PermissionEvent := none
  attachment : Option AgentEventAttachment := none
  addressed : Bool
  createdAt : ℕ
deriving DecidableEq, Repr

/-- The event by which a message is delivered in a scope. -/
def agentEventOf (message : RoomMessage) (scopeId : Option String) (addressed : Bool) :
    AgentEvent :=
  { sequence := message.sequence
    type := match message.type with
      | .text => .text
      | .action => .action
    scopeId
    participant := { id := message.peerId, name := message.name, kind := message.kind }
    text := message.text
    actionType := message.actionType
    collab := message.collab
    permission := message.permission
    addressed
    createdAt := message.createdAt }

/-- The event an Agent receives for a message, if any. -/
def toAgentEvent (message : RoomMessage) (participantId : String) (index : TaskProjectionIndex)
    (historical : Bool) : Option AgentEvent :=
  match projectTaskEvent index message participantId historical with
  | .hidden => none
  | .visible scopeId addressed => some (agentEventOf message (some scopeId) addressed)
  | .ordinary => some (agentEventOf message none (addresses message participantId))

/-- Whether an attachment addresses a participant by itself: a Human attachment of a Task that was
uploaded with wake intent, for a connected participating Agent. -/
def attachmentAddresses (attachment : RoomAttachment) (participantId : String)
    (index : TaskProjectionIndex) (participants : Participants) : Bool :=
  match attachment.taskRequestId with
  | none => false
  | some requestId =>
    if attachment.senderKind = .human ∧ attachment.taskWake = some true then
      match resolveTaskRequest index (.str requestId) participants with
      | .ok resolution => participantId ∈ resolution.agentParticipantIds
      | .error _ => false
    else false

/-- The event an Agent receives for an attachment, if any. -/
def toAttachmentEvent (attachment : RoomAttachment) (participantId : String)
    (index : TaskProjectionIndex) (participants : Participants) : Option AgentEvent :=
  if attachment.taskRequestId.any fun requestId =>
      !taskAgentParticipates index requestId participantId then none
  else some
    { sequence := attachment.sequence
      type := .image
      scopeId := (nonempty? attachment.taskRequestId).map fun requestId => s!"task:{requestId}"
      participant :=
        { id := attachment.senderId
          name := attachment.senderName
          kind := attachment.senderKind }
      attachment := some
        { id := attachment.id
          fileName := attachment.fileName
          mimeType := attachment.mimeType
          size := attachment.size
          taskRequestId := nonempty? attachment.taskRequestId }
      addressed := attachmentAddresses attachment participantId index participants
      createdAt := attachment.createdAt }

/-! ## Task execution -/

/-- Longest accepted id of a Task whose execution is published. -/
def MAX_TASK_INTERRUPT_REQUEST_ID_LENGTH : ℕ := 64

/-- Largest accepted number of queued turns. -/
def MAX_TASK_EXECUTION_QUEUED_COUNT : ℤ := 64

/-- The phases of a Task execution. -/
inductive TaskExecutionPhase where
  | running
  | interrupting
  | queued
  | retrying
deriving DecidableEq, Repr

/-- Outcome reported with an execution state. -/
inductive TaskExecutionOutcome where
  | interrupted
deriving DecidableEq, Repr

/-- Availability reported with an execution state. -/
inductive TaskExecutionAvailability where
  | sessionLost
  | controlUnavailable
  | needsAttention
deriving DecidableEq, Repr

/-- The transient execution state of one Task. -/
structure TaskExecutionProjection where
  agentParticipantId : String
  taskRequestId : String
  currentTurnSequence : Option ℤ
  phase : Option TaskExecutionPhase
  queuedCount : ℤ
  lastOutcome : Option TaskExecutionOutcome
  availability : Option TaskExecutionAvailability
deriving DecidableEq, Repr

/-- The phase a value names, if it names one. -/
def parseTaskExecutionPhase (value : JsValue) : Option TaskExecutionPhase :=
  match value.asString? with
  | some "running" => some .running
  | some "interrupting" => some .interrupting
  | some "queued" => some .queued
  | some "retrying" => some .retrying
  | _ => none

/-- The outcome a value names, if it names one. -/
def parseTaskExecutionOutcome (value : JsValue) : Option TaskExecutionOutcome :=
  match value.asString? with
  | some "interrupted" => some .interrupted
  | _ => none

/-- The availability a value names, if it names one. -/
def parseTaskExecutionAvailability (value : JsValue) : Option TaskExecutionAvailability :=
  match value.asString? with
  | some "session_lost" => some .sessionLost
  | some "control_unavailable" => some .controlUnavailable
  | some "needs_attention" => some .needsAttention
  | _ => none

/-- The turn sequence a value is: a positive safe integer. -/
def parseAgentActivityTurnSequence (value : JsValue) : Option ℤ :=
  value.asSafeInteger?.filter (0 < ·)

/-- An optional property: absent, or present and accepted by a parser. -/
def parseOptional {α : Type} (value : JsValue) (parse : JsValue → Option α) :
    Option (Option α) :=
  match value with
  | .undefined => some none
  | value => (parse value).map some

/-- The current turn and phase of an execution state. A current turn is running or interrupting;
without one, work is queued or retrying and some of it waits. -/
def parseTaskExecutionTurn (candidate : JsValue) (queuedCount : ℤ) :
    Option (Option ℤ × Option TaskExecutionPhase) :=
  match candidate.get "currentTurnSequence" with
  | .undefined => do
    let phase ← parseOptional (candidate.get "phase") parseTaskExecutionPhase
    match phase with
    | none => some (none, none)
    | some .running => none
    | some .interrupting => none
    | some phase => if queuedCount = 0 then none else some (none, some phase)
  | turn => do
    let turn ← parseAgentActivityTurnSequence turn
    let phase ← parseTaskExecutionPhase (candidate.get "phase")
    match phase with
    | .queued => none
    | .retrying => none
    | phase => some (some turn, some phase)

/-- The execution state that an Agent may publish, if the Room accepts it. -/
def normalizeTaskExecution (messages : List RoomMessage) (participants : Participants)
    (participant : RoomParticipant) (raw : JsValue) : Option TaskExecutionProjection := do
  let _ ← raw.asRecord?
  let taskRequestId ← (raw.get "taskRequestId").asString?
  if taskRequestId = "" ∨
      MAX_TASK_INTERRUPT_REQUEST_ID_LENGTH < JsString.utf16Length taskRequestId then none
  let index := buildTaskProjectionIndex messages participants
  let resolution ← (resolveTaskRequest index (.str taskRequestId) participants).toOption
  if !participant.connected ∨
      !taskAgentParticipates index resolution.requestId participant.id then none
  let queuedCount ← (raw.get "queuedCount").asSafeInteger?
  if queuedCount < 0 ∨ MAX_TASK_EXECUTION_QUEUED_COUNT < queuedCount then none
  let (currentTurnSequence, phase) ← parseTaskExecutionTurn raw queuedCount
  let lastOutcome ← parseOptional (raw.get "lastOutcome") parseTaskExecutionOutcome
  let availability ← parseOptional (raw.get "availability") parseTaskExecutionAvailability
  return { agentParticipantId := participant.id, taskRequestId := resolution.requestId,
           currentTurnSequence, phase, queuedCount, lastOutcome, availability }

end Free4Chat
