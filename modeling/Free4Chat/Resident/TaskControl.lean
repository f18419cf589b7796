import Free4Chat.Resident.TaskExecution
import Free4Chat.Session.AtMostOnce

/-!
# Controlling a Running Task

A Human may interrupt the running turn of a Task, or steer it: append an instruction and then ask
the turn to yield to it. Both name the exact turn. The frame that asks the Runtime goes to the
resident socket of the executor only, and only while the named turn is the one active turn of the
Task. A steer awaits the save of its instruction before it decides about the frame, so executions
may be published in between.

* `TaskControlSession` and `taskControlSystem`: the Room, what is known of its executions, and the
  operations.
* `ControlExact`: what holds of every frame that is sent.
* `controlExact_of_reachable`: it does, in every run.
-/

namespace Free4Chat

/-! ## Frames -/

/-- The controls of a running Task. -/
inductive TaskControlKind where
  | interrupt
  | steer
deriving DecidableEq, Repr

/-- A frame that asks a Runtime to stop a turn. A steer names the message with the instruction. -/
structure TaskControlFrame where
  control : TaskControlKind
  taskRequestId : String
  turnSequence : ℤ
  steerInstructionSequence : Option ℕ := none
deriving DecidableEq, Repr

/-- A Human's request to control a Task. -/
structure TaskControlRequest where
  taskRequestId : JsValue
  turnSequence : JsValue
  -- The instruction of a steer.
  text : JsValue := .undefined

/-- What the Human is told. -/
inductive TaskControlAnswer where
  | silent
  | notice (notice : String)
  | error (error : String)
deriving DecidableEq, Repr

/-- The exact turn to stop, and its executor. -/
structure InterruptTarget where
  requestId : String
  executorAgentId : String
  turnSequence : ℤ
deriving DecidableEq, Repr

namespace TaskExecutions

variable (known : TaskExecutions) (room : RoomRecord)

/-- The Task that a Human may control, and its executor: that of the active turn, else that of the
one known execution, else the Agent that the Task was requested from. -/
def resolveInterruptTask (participant : RoomParticipant) (rawTaskRequestId : JsValue) :
    Except String (String × String) := do
  Except.rejectWhen (participant.kind ≠ .human) "task_interrupt_not_human"
  let raw ← Except.require (rawTaskRequestId.asString?.filter fun raw => raw ≠ "" &&
    JsString.utf16Length raw ≤ MAX_TASK_INTERRUPT_REQUEST_ID_LENGTH) "invalid_task_request"
  let resolution ← resolveTaskRequest (buildTaskProjectionIndex room.messages room.participants)
    (.str raw) room.participants
  let executions := known.taskExecutionsForRequest room resolution.requestId
  let activeExecutions := known.activeExecutions room resolution.requestId
  Except.rejectWhen (1 < activeExecutions.length) "task_execution_ambiguous"
  let onlyExecution := if executions.length = 1 then executions.head? else none
  let executorAgentId ← Except.require
    (((activeExecutions.head?.or onlyExecution).map (·.agentParticipantId)).or
      (initialTaskAgentParticipantId resolution.request room.participants))
    "task_target_not_in_room"
  return (resolution.requestId, executorAgentId)

/-- The turn that an interrupt may stop. -/
def resolveInterruptTarget (participant : RoomParticipant)
    (rawTaskRequestId requestedTurn : JsValue) : Except String InterruptTarget := do
  let (requestId, executorAgentId) ←
    known.resolveInterruptTask room participant rawTaskRequestId
  let turnSequence ← Except.require (parseAgentActivityTurnSequence requestedTurn)
    "invalid_task_turn"
  let activeTurn ← Except.require ((known.taskExecutionFor room executorAgentId requestId).filter
    fun execution => execution.currentTurnSequence = some turnSequence) "task_turn_not_active"
  Except.rejectWhen (activeTurn.agentParticipantId ≠ executorAgentId) "task_turn_not_active"
  return { requestId, executorAgentId, turnSequence }

/-- The connections over which a frame is delivered to an Agent. -/
def sendAgentTaskControl (participantId : String) (sendable : String → Bool) : List String :=
  ((room.residentAttachments known.sockets participantId).map (·.connectionNonce)).filter sendable

end TaskExecutions

/-! ## The session -/

/-- A steer that awaits the save of its instruction. -/
structure Steering where
  -- The Room with the instruction.
  room : RoomRecord
  senderId : String
  requestId : String
  executorAgentId : String
  request : TaskControlRequest
  -- The sequence of the instruction.
  sequence : ℕ

/-- A frame that was sent: over which connection, for which request, and the Room, its executions
and the stored record at that time. -/
structure SentControl where
  frame : TaskControlFrame
  connectionNonce : String
  senderId : String
  request : TaskControlRequest
  room : RoomRecord
  known : TaskExecutions
  stored : Option RoomRecord

/-- A Room whose Tasks are controlled. -/
structure TaskControlSession where
  session : RoomSession := {}
  known : TaskExecutions := {}
  steering : Option Steering := none
  -- Specification field: the frames that were sent.
  sent : List SentControl := []

namespace TaskControlSession

variable (env : RoomEnv) (s : TaskControlSession)

/-- Logs a frame for every connection over which it was delivered. -/
def deliver (room : RoomRecord) (senderId : String) (request : TaskControlRequest)
    (frame : TaskControlFrame) (connections : List String) : TaskControlSession :=
  { s with
    sent := s.sent ++ connections.map fun connectionNonce =>
      { frame, connectionNonce, senderId, request, room, known := s.known,
        stored := s.session.stored } }

/-- The Room and the Human of a message, when the message may be served. -/
def client (participantId token : String) :
    Option (RoomRecord × RoomParticipant) × TaskControlSession :=
  match s.session.activeRoom env with
  | (none, session) => (none, { s with session })
  | (some room, session) =>
    ((room.findHumanClient participantId token).toOption.map fun human => (room, human),
      { s with session })

/-- Serves an interrupt. -/
def taskInterrupt (participantId token : String) (request : TaskControlRequest)
    (sendable : String → Bool) : TaskControlSession × TaskControlAnswer :=
  match s.client env participantId token with
  | (none, s) => (s, .silent)
  | (some (room, human), s) =>
    match s.known.resolveInterruptTarget room human request.taskRequestId request.turnSequence with
    | .error error =>
      (s, if error = "task_turn_not_active" then .notice "interrupt_turn_finished"
        else .error error)
    | .ok target =>
      let connections := s.known.sendAgentTaskControl room target.executorAgentId sendable
      (s.deliver room human.id request
          { control := .interrupt
            taskRequestId := target.requestId
            turnSequence := target.turnSequence } connections,
        if connections.isEmpty then .error "task_agent_not_reachable" else .silent)

/-- The Task and the text of a steer. -/
def steerInstruction (room : RoomRecord) (human : RoomParticipant) (request : TaskControlRequest) :
    Except String (String × String × String) := do
  let text := JsString.trim (request.text.asString?.getD "")
  Except.rejectWhen (text = "") "invalid_task_instruction"
  Except.rejectWhen (parseAgentActivityTurnSequence request.turnSequence).isNone
    "invalid_task_turn"
  let (requestId, executorAgentId) ←
    s.known.resolveInterruptTask room human request.taskRequestId
  return (text, requestId, executorAgentId)

/-- The first part of a steer: the instruction is appended and saved. -/
def taskInterruptAndSend (participantId token : String) (request : TaskControlRequest) :
    TaskControlSession × TaskControlAnswer :=
  match s.client env participantId token with
  | (none, s) => (s, .silent)
  | (some (room, human), s) =>
    match s.steerInstruction room human request with
    | .error error => (s, .error error)
    | .ok (text, requestId, executorAgentId) =>
      match (room.touch env human.id).appendHumanText env human text (.arr [.str executorAgentId])
          (.str requestId) with
      | .error error => (s, .error error)
      | .ok appended =>
        match appended.saveRoom env with
        | none => (s, .error "room_state_budget_exceeded")
        | some saved =>
          ({ s with
            session := s.session.store (some saved)
            steering := some
              { room := saved
                senderId := human.id
                requestId
                executorAgentId
                request
                sequence := appended.nextMessageSequence } }, .silent)

/-- The second part of a steer: the frame is sent if the named turn is still the current one. -/
def finishSteer (sendable : String → Bool) : TaskControlSession × TaskControlAnswer :=
  match s.steering with
  | none => (s, .silent)
  | some steering =>
    let s := { s with steering := none }
    match (s.known.authoritativeTaskTurn steering.room steering.requestId
        steering.executorAgentId).filter fun turn =>
          parseAgentActivityTurnSequence steering.request.turnSequence = some turn with
    | none => (s, .notice "instruction_queued_turn_finished")
    | some turnSequence =>
      let connections := s.known.sendAgentTaskControl steering.room steering.executorAgentId
        sendable
      (s.deliver steering.room steering.senderId steering.request
          { control := .steer
            taskRequestId := steering.requestId
            turnSequence
            steerInstructionSequence := some steering.sequence } connections,
        if connections.isEmpty then .error "instruction_queued_interrupt_unavailable" else .silent)

/-- A Runtime publishes an execution. While a steer awaits its save, storage holds the Room that it
saves, and nobody else writes it. -/
def agentTaskExecution (participantId token : String) (raw : JsValue)
    (writable : String → Bool) : TaskControlSession :=
  match s.steering with
  | some steering =>
    { s with known := s.known.agentTaskExecution steering.room participantId token raw writable }
  | none =>
    match s.session.activeRoom env with
    | (none, session) => { s with session }
    | (some room, session) =>
      { s with
        session
        known := s.known.agentTaskExecution room participantId token raw writable }

/-! ## Connections -/

/-- An Agent opens its event stream. What was known of its executions is forgotten. -/
def handleAgentEventConnection (participantId token connectionNonce : String) :
    TaskControlSession :=
  match s.session.activeRoom env with
  | (none, session) => { s with session }
  | (some room, session) =>
    match room.agentEventConnection env participantId token connectionNonce with
    | .error _ => { s with session }
    | .ok connected =>
      let known := s.known.clearAgentActivitiesForParticipant participantId
      match connected.saveRoom env with
      | none => { s with session, known }
      | some saved =>
        { s with
          session := session.store (some saved)
          known := { known with sockets := known.sockets.set { participantId, connectionNonce } } }

/-- The participants whose executions an operation on the Room forgets. -/
def forgottenAgents (room : RoomRecord) : SessionOp → List String
  | .membership (.agentEventClose participantId connectionNonce) =>
    ((room.eventStreamAgent participantId connectionNonce).map (·.id)).toList
  | .membership (.agentLeave participantId token) =>
    ((room.findAgent participantId token).toOption.map (·.id)).toList
  | .membership (.controlLeave participantId token) =>
    (((room.findParticipant participantId token "").filter (·.kind = .agent)).map (·.id)).toList
  | .membership .alarm =>
    (room.participants.values.filter (RoomRecord.isExpiredAgent env)).map (·.id)
  | _ => []

/-- An operation on the Room that opens no event stream. -/
def runSession (op : SessionOp) : TaskControlSession :=
  { s with
    session := s.session.step env op
    known := match (s.session.activeRoom env).1 with
      | none => s.known
      | some room => (forgottenAgents env room op).foldl
          TaskExecutions.clearAgentActivitiesForParticipant s.known }

/-- A resident socket closes. -/
def handleAgentEventClose (connectionNonce : String) : TaskControlSession :=
  match s.known.sockets.get? connectionNonce with
  | none => s
  | some attachment =>
    let closed := s.runSession env
      (.membership (.agentEventClose attachment.participantId connectionNonce))
    { closed with
      known := { closed.known with sockets := closed.known.sockets.erase connectionNonce } }

/-- The instance is evicted from memory. The sockets survive. -/
def restart : TaskControlSession :=
  { s with
    session := { s.session with tracking := {}, phantoms := [] }
    known := { s.known with transientTaskExecutions := .empty }
    steering := none }

end TaskControlSession

/-- What may happen to a Room whose Tasks are controlled. -/
inductive TaskControlEvent where
  | agentTaskExecution (participantId token : String) (raw : JsValue) (writable : String → Bool)
  | taskInterrupt (participantId token : String) (request : TaskControlRequest)
    (sendable : String → Bool)
  | taskInterruptAndSend (participantId token : String) (request : TaskControlRequest)
  | finishSteer (sendable : String → Bool)
  | agentEventConnection (participantId token connectionNonce : String)
  | agentEventClose (connectionNonce : String)
  | session (op : SessionOp)
  | restart

/-- Whether an operation is one of the Room alone: no event stream opens or closes, and the instance
stays in memory. -/
def SessionOp.isRoomOnly : SessionOp → Bool
  | .membership (.agentEventConnection ..) => false
  | .membership (.agentEventClose ..) => false
  | .restart => false
  | _ => true

namespace TaskControlSession

/-- When an event may happen. Only executions are published while a steer awaits its save, and the
nonce of a connection is a fresh one. -/
def Enabled (s : TaskControlSession) : TaskControlEvent → Prop
  | .agentTaskExecution .. => True
  | .finishSteer _ => True
  | .restart => True
  | .agentEventConnection _ _ connectionNonce =>
    s.steering = none ∧ s.known.sockets.get? connectionNonce = none
  | .session op => s.steering = none ∧ op.isRoomOnly
  | _ => s.steering = none

instance (s : TaskControlSession) : DecidablePred s.Enabled
  | .agentTaskExecution .. => inferInstanceAs (Decidable True)
  | .finishSteer _ => inferInstanceAs (Decidable True)
  | .restart => inferInstanceAs (Decidable True)
  | .taskInterrupt .. => inferInstanceAs (Decidable (s.steering = none))
  | .taskInterruptAndSend .. => inferInstanceAs (Decidable (s.steering = none))
  | .agentEventClose _ => inferInstanceAs (Decidable (s.steering = none))
  | .agentEventConnection _ _ connectionNonce =>
    inferInstanceAs (Decidable (s.steering = none ∧ s.known.sockets.get? connectionNonce = none))
  | .session op => inferInstanceAs (Decidable (s.steering = none ∧ op.isRoomOnly))

/-- The session after an event. -/
def step (s : TaskControlSession) (env : RoomEnv) : TaskControlEvent → TaskControlSession
  | .agentTaskExecution participantId token raw writable =>
    s.agentTaskExecution env participantId token raw writable
  | .taskInterrupt participantId token request sendable =>
    (s.taskInterrupt env participantId token request sendable).1
  | .taskInterruptAndSend participantId token request =>
    (s.taskInterruptAndSend env participantId token request).1
  | .finishSteer sendable => (s.finishSteer sendable).1
  | .agentEventConnection participantId token connectionNonce =>
    s.handleAgentEventConnection env participantId token connectionNonce
  | .agentEventClose connectionNonce => s.handleAgentEventClose env connectionNonce
  | .session op => s.runSession env op
  | .restart => s.restart

end TaskControlSession

/-- The runs of a Room whose Tasks are controlled. -/
def taskControlSystem : TransitionSystem TaskControlSession (RoomEnv × TaskControlEvent) where
  init s := s = {}
  step s label s' := s.Enabled label.2 ∧ s' = s.step label.1 label.2

/-! ## Exactness -/

/-- A message is the instruction of a request, by a Human and in a Task. -/
structure IsInstruction (request : TaskControlRequest) (senderId requestId : String)
    (message : RoomMessage) : Prop where
  text : ∃ text, request.text.asString? = some text ∧
    message.text = some (JsString.slice (JsString.trim text) MAX_TEXT_LENGTH)
  sender : message.peerId = senderId
  task : message.taskRequestId = some requestId

/-- A sent frame is exact: the request names its Task and its turn, the turn is the one active turn
of the Task, it goes to the resident socket of the executor, and a steer names the stored message
with the instruction. -/
structure ControlExact (sent : SentControl) : Prop where
  task : sent.request.taskRequestId.asString?.map JsString.trim = some sent.frame.taskRequestId
  turn : parseAgentActivityTurnSequence sent.request.turnSequence = some sent.frame.turnSequence
  executor : ∃ executorAgentId attachment,
    OnlyActiveTurn sent.room sent.known sent.frame.taskRequestId executorAgentId
      sent.frame.turnSequence ∧
    Resident sent.room sent.known.sockets executorAgentId attachment ∧
    attachment.connectionNonce = sent.connectionNonce
  instruction : sent.frame.control = .steer → ∃ stored message, sent.stored = some stored ∧
    message ∈ stored.messages ∧ sent.frame.steerInstructionSequence = some message.sequence ∧
    IsInstruction sent.request sent.senderId sent.frame.taskRequestId message

/-- A steer that awaits its save: storage holds the Room with its instruction. -/
structure WellSteered (s : TaskControlSession) (steering : Steering) : Prop where
  stored : s.session.stored = some steering.room
  task : steering.request.taskRequestId.asString?.map JsString.trim = some steering.requestId
  instruction : ∃ message ∈ steering.room.messages, message.sequence = steering.sequence ∧
    IsInstruction steering.request steering.senderId steering.requestId message

/-- The invariant of a Room whose Tasks are controlled. -/
structure WellControlled (s : TaskControlSession) : Prop where
  distinct : TurnsDistinct s.known.sockets
  steered : ∀ steering, s.steering = some steering → WellSteered s steering
  exact_sent : ∀ sent ∈ s.sent, ControlExact sent

/-! ## What is resolved -/

namespace TaskExecutions

variable {known : TaskExecutions} {room : RoomRecord}

lemma resident_of_mem_sendAgentTaskControl {agentId connectionNonce : String}
    {sendable : String → Bool}
    (h : connectionNonce ∈ known.sendAgentTaskControl room agentId sendable) :
    ∃ attachment, Resident room known.sockets agentId attachment ∧
      attachment.connectionNonce = connectionNonce := by
  obtain ⟨attachment, hmem, rfl⟩ := List.mem_map.mp (List.mem_filter.mp h).1
  obtain ⟨stored, hresident, rfl⟩ := mem_residentAttachments.mp hmem
  exact ⟨stored, hresident, (deserialize_connectionNonce stored).symm⟩

lemma requestId_of_resolveTaskRequest {index : TaskProjectionIndex} {raw : JsValue}
    {participants : Participants} {resolution : TaskRequestResolution}
    (h : resolveTaskRequest index raw participants = .ok resolution) :
    raw.asString?.map JsString.trim = some resolution.requestId := by
  unfold resolveTaskRequest at h
  cases hraw : raw.asString? with
  | none =>
    rw [hraw] at h
    cases h
  | some text =>
    rw [hraw] at h
    dsimp only at h
    split at h
    · cases h
    · split at h
      · cases h
      · rw [← Except.ok.inj h]
        rfl

lemma resolveInterruptTask_ok {human : RoomParticipant} {rawTaskRequestId : JsValue}
    {requestId executorAgentId : String}
    (h : known.resolveInterruptTask room human rawTaskRequestId =
      .ok (requestId, executorAgentId)) :
    rawTaskRequestId.asString?.map JsString.trim = some requestId ∧
      (known.activeExecutions room requestId).length ≤ 1 := by
  simp only [resolveInterruptTask, Except.bind_eq_ok, Except.rejectWhen_eq_ok,
    Except.require_eq_ok, Except.pure_eq_ok, Prod.mk.injEq] at h
  obtain ⟨_, -, raw, hraw, resolution, hresolution, _, hactive, _, -, rfl, rfl⟩ := h
  have hraw := (Option.filter_eq_some_iff.mp hraw).1
  refine ⟨?_, by omega⟩
  rw [hraw]
  exact requestId_of_resolveTaskRequest hresolution

lemma resolveInterruptTarget_ok {human : RoomParticipant}
    {rawTaskRequestId requestedTurn : JsValue} {target : InterruptTarget}
    (h : known.resolveInterruptTarget room human rawTaskRequestId requestedTurn = .ok target) :
    rawTaskRequestId.asString?.map JsString.trim = some target.requestId ∧
      parseAgentActivityTurnSequence requestedTurn = some target.turnSequence ∧
      (known.activeExecutions room target.requestId).length ≤ 1 ∧
      ∃ execution,
        known.taskExecutionFor room target.executorAgentId target.requestId = some execution ∧
        execution.currentTurnSequence = some target.turnSequence := by
  simp only [resolveInterruptTarget, Except.bind_eq_ok, Except.rejectWhen_eq_ok,
    Except.require_eq_ok, Except.pure_eq_ok] at h
  obtain ⟨⟨requestId, executorAgentId⟩, htask, turnSequence, hturn, execution, hexecution, _, -,
    rfl⟩ := h
  obtain ⟨hname, hactive⟩ := resolveInterruptTask_ok htask
  obtain ⟨hknown, hcurrent⟩ := Option.filter_eq_some_iff.mp hexecution
  exact ⟨hname, hturn, hactive, execution, hknown, by simpa using hcurrent⟩

lemma onlyActiveTurn_of_taskExecutionFor (hdistinct : TurnsDistinct known.sockets)
    {requestId agentId : String} {turn : ℤ} {agent : RoomParticipant}
    {execution : TaskExecutionProjection} (hagent : room.connectedAgent? agentId = some agent)
    (hactive : (known.activeExecutions room requestId).length ≤ 1)
    (hknown : known.taskExecutionFor room agentId requestId = some execution)
    (hturn : execution.currentTurnSequence = some turn) :
    OnlyActiveTurn room known requestId agentId turn := by
  obtain ⟨rfl, -⟩ := key_of_taskExecutionFor hknown
  have hmem : execution ∈ known.activeExecutions room requestId := by
    refine List.mem_filter.mpr ⟨mem_taskExecutionsForRequest.mpr ⟨⟨agent, hagent⟩, hknown⟩, ?_⟩
    rw [hturn]
    rfl
  -- There is at least this one, hence only this one.
  cases hlist : known.activeExecutions room requestId with
  | nil =>
    rw [hlist] at hmem
    cases hmem
  | cons first rest =>
    rw [hlist, List.length_cons] at hactive
    obtain rfl : rest = [] := List.length_eq_zero_iff.mp (by omega)
    rw [hlist, List.mem_singleton] at hmem
    subst hmem
    exact onlyActiveTurn_of_activeExecutions hdistinct hlist hturn

lemma sockets_foldl_clear (participantIds : List String) (known : TaskExecutions) :
    (participantIds.foldl clearAgentActivitiesForParticipant known).sockets = known.sockets := by
  induction participantIds generalizing known with
  | nil => rfl
  | cons participantId participantIds ih =>
    rw [List.foldl_cons, ih]
    rfl

end TaskExecutions

/-! ## Steps -/

namespace TaskControlSession

variable {env : RoomEnv} {s : TaskControlSession}

lemma client_eq {participantId token : String} {found : Option (RoomRecord × RoomParticipant)}
    {s' : TaskControlSession} (h : s.client env participantId token = (found, s')) :
    ∃ session, s' = { s with session } := by
  unfold client at h
  split at h
  all_goals
    obtain ⟨-, rfl⟩ := Prod.mk.inj h
    exact ⟨_, rfl⟩

lemma steerInstruction_ok {room : RoomRecord} {human : RoomParticipant}
    {request : TaskControlRequest} {text requestId executorAgentId : String}
    (h : s.steerInstruction room human request = .ok (text, requestId, executorAgentId)) :
    request.taskRequestId.asString?.map JsString.trim = some requestId ∧
      ∃ raw, request.text.asString? = some raw ∧ text = JsString.trim raw := by
  simp only [steerInstruction, Except.bind_eq_ok, Except.rejectWhen_eq_ok, Except.pure_eq_ok,
    Prod.mk.injEq] at h
  obtain ⟨_, hne, _, -, ⟨_, _⟩, htask, rfl, rfl, rfl⟩ := h
  refine ⟨(TaskExecutions.resolveInterruptTask_ok htask).1, ?_⟩
  cases hraw : request.text.asString? with
  | none =>
    rw [hraw] at hne
    exact absurd (by decide) hne
  | some raw => exact ⟨raw, rfl, rfl⟩

lemma getLast?_appendHumanText {room appended : RoomRecord} {human : RoomParticipant}
    {text requestId : String} {targets : JsValue}
    (h : room.appendHumanText env human text targets (.str requestId) = .ok appended) :
    ∃ message, appended.messages.getLast? = some message ∧
      message.sequence = appended.nextMessageSequence ∧ message.peerId = human.id ∧
      message.taskRequestId = some (JsString.trim requestId) ∧
      message.text = some (JsString.slice (JsString.trim text) MAX_TEXT_LENGTH) := by
  simp only [RoomRecord.appendHumanText, RoomRecord.resolveMessageTask, Except.bind_eq_ok,
    Except.map_eq_ok, Except.pure_eq_ok] at h
  obtain ⟨_, ⟨resolution, hresolution, rfl⟩, resolved, -, rfl⟩ := h
  have hname := TaskExecutions.requestId_of_resolveTaskRequest hresolution
  refine ⟨_, room.getLast?_appendMessage env _, ?_, rfl, ?_, rfl⟩
  · obtain ⟨messages, -, -, heq⟩ := room.appendMessage_eq env (textMessage human
      (JsString.slice (JsString.trim text) MAX_TEXT_LENGTH) (some resolution.requestId) resolved
      env.now)
    rw [Option.map_some, heq]
  · exact hname.symm

end TaskControlSession

namespace WellControlled

variable {env : RoomEnv} {s : TaskControlSession}

section

variable (h : WellControlled s)
include h

lemma session (hsteering : s.steering = none)
    (session : RoomSession) : WellControlled { s with session } := by
  refine ⟨h.distinct, ?_, h.exact_sent⟩
  intro steering hsome
  cases hsteering.symm.trans hsome

lemma deliver {room : RoomRecord} {senderId : String}
    {request : TaskControlRequest} {frame : TaskControlFrame} {executorAgentId : String}
    {sendable : String → Bool}
    (htask : request.taskRequestId.asString?.map JsString.trim = some frame.taskRequestId)
    (hturn : parseAgentActivityTurnSequence request.turnSequence = some frame.turnSequence)
    (hactive : (∃ agent, room.connectedAgent? executorAgentId = some agent) →
      OnlyActiveTurn room s.known frame.taskRequestId executorAgentId frame.turnSequence)
    (hsteer : frame.control = .steer → ∃ stored message, s.session.stored = some stored ∧
      message ∈ stored.messages ∧ frame.steerInstructionSequence = some message.sequence ∧
      IsInstruction request senderId frame.taskRequestId message) :
    WellControlled (s.deliver room senderId request frame
      (s.known.sendAgentTaskControl room executorAgentId sendable)) := by
  refine ⟨h.distinct, ?_, ?_⟩
  · intro steering hsteering
    obtain ⟨hstored, hname, hinstruction⟩ := h.steered steering hsteering
    exact ⟨hstored, hname, hinstruction⟩
  · intro sent hsent
    rcases List.mem_append.mp hsent with hsent | hsent
    · exact h.exact_sent sent hsent
    · obtain ⟨connectionNonce, hconnection, rfl⟩ := List.mem_map.mp hsent
      obtain ⟨attachment, hresident, hnonce⟩ :=
        TaskExecutions.resident_of_mem_sendAgentTaskControl hconnection
      obtain ⟨agent, hget, hkind, hconnected, -⟩ := hresident.agent
      have hagent := RoomRecord.connectedAgent?_eq_some.mpr ⟨hget, hkind, hconnected⟩
      exact ⟨htask, hturn, ⟨executorAgentId, attachment, hactive ⟨agent, hagent⟩, hresident, hnonce⟩,
        hsteer⟩

lemma taskInterrupt (hsteering : s.steering = none)
    (participantId token : String) (request : TaskControlRequest) (sendable : String → Bool) :
    WellControlled (s.taskInterrupt env participantId token request sendable).1 := by
  unfold TaskControlSession.taskInterrupt
  split
  next s' hclient =>
    obtain ⟨session, rfl⟩ := TaskControlSession.client_eq hclient
    exact h.session hsteering session
  next room human s' hclient =>
    obtain ⟨session, rfl⟩ := TaskControlSession.client_eq hclient
    have hwell := h.session hsteering session
    split
    next => exact hwell
    next target htarget =>
      obtain ⟨htask, hturn, hactive, execution, hknown, hcurrent⟩ :=
        TaskExecutions.resolveInterruptTarget_ok htarget
      refine hwell.deliver htask hturn ?_ nofun
      rintro ⟨agent, hagent⟩
      exact TaskExecutions.onlyActiveTurn_of_taskExecutionFor h.distinct hagent hactive hknown
        hcurrent

lemma taskInterruptAndSend (hsteering : s.steering = none)
    (participantId token : String) (request : TaskControlRequest) :
    WellControlled (s.taskInterruptAndSend env participantId token request).1 := by
  unfold TaskControlSession.taskInterruptAndSend
  split
  next s' hclient =>
    obtain ⟨session, rfl⟩ := TaskControlSession.client_eq hclient
    exact h.session hsteering session
  next room human s' hclient =>
    obtain ⟨session, rfl⟩ := TaskControlSession.client_eq hclient
    have hwell := h.session hsteering session
    split
    next => exact hwell
    next text requestId executorAgentId hinstruction =>
      split
      next => exact hwell
      next appended happend =>
        split
        next => exact hwell
        next saved hsave =>
          refine ⟨h.distinct, ?_, h.exact_sent⟩
          rintro steering hsome
          obtain rfl := Option.some.inj hsome
          obtain ⟨htask, raw, hraw, rfl⟩ :=
            TaskControlSession.steerInstruction_ok hinstruction
          obtain ⟨message, hlast, hsequence, hsender, hscope, htext⟩ :=
            TaskControlSession.getLast?_appendHumanText happend
          rw [← RoomRecord.getLast?_saveRoom env hsave] at hlast
          refine ⟨rfl, htask, message, List.mem_of_getLast? hlast, hsequence, ?_, hsender, ?_⟩
          · rw [JsString.trim_trim] at htext
            exact ⟨raw, hraw, htext⟩
          · -- The Task was resolved under a trimmed id.
            obtain ⟨rawTask, -, rfl⟩ := Option.map_eq_some_iff.mp htask
            rw [hscope, JsString.trim_trim]

lemma finishSteer (sendable : String → Bool) : WellControlled (s.finishSteer sendable).1 := by
  unfold TaskControlSession.finishSteer
  split
  next => exact h
  next steering hsome =>
    have hidle : WellControlled { s with steering := none } := ⟨h.distinct, nofun, h.exact_sent⟩
    obtain ⟨hstored, htask, message, hmem, hsequence, hinstruction⟩ := h.steered steering hsome
    dsimp only
    split
    next => exact hidle
    next turnSequence hturn =>
      obtain ⟨hcurrent, hrequested⟩ := Option.filter_eq_some_iff.mp hturn
      refine hidle.deliver htask (by simpa using hrequested) ?_ ?_
      · intro _
        exact onlyActiveTurn_of_authoritativeTaskTurn h.distinct hcurrent
      · intro _
        exact ⟨steering.room, message, hstored, hmem, by rw [hsequence], hinstruction⟩

lemma agentTaskExecution (participantId token : String) (raw : JsValue) (writable : String → Bool) :
    WellControlled (s.agentTaskExecution env participantId token raw writable) := by
  unfold TaskControlSession.agentTaskExecution
  split
  next steering hsome =>
    refine ⟨h.distinct.agentTaskExecution _ _ _ _, ?_, h.exact_sent⟩
    intro steering' hsome'
    obtain ⟨hstored, htask, hinstruction⟩ := h.steered steering' hsome'
    exact ⟨hstored, htask, hinstruction⟩
  next hsteering =>
    split
    next => exact h.session hsteering _
    next =>
      refine ⟨h.distinct.agentTaskExecution _ _ _ _, ?_, h.exact_sent⟩
      intro steering hsome
      cases hsteering.symm.trans hsome

section

variable (hsteering : s.steering = none)
include hsteering

lemma handleAgentEventConnection (participantId token connectionNonce : String) :
    WellControlled (s.handleAgentEventConnection env participantId token connectionNonce) := by
  have hidle : ∀ steering, s.steering = some steering → False := by
    intro steering hsome
    cases hsteering.symm.trans hsome
  unfold TaskControlSession.handleAgentEventConnection
  split
  next => exact h.session hsteering _
  next =>
    split
    next => exact h.session hsteering _
    next =>
      dsimp only
      split
      · exact ⟨h.distinct, fun steering hsome => (hidle steering hsome).elim, h.exact_sent⟩
      · exact ⟨TurnsDistinct.open h.distinct _ _,
          fun steering hsome => (hidle steering hsome).elim, h.exact_sent⟩

lemma runSession (op : SessionOp) : WellControlled (s.runSession env op) := by
  have hsockets : (s.runSession env op).known.sockets = s.known.sockets := by
    unfold TaskControlSession.runSession
    dsimp only
    split
    · rfl
    · exact TaskExecutions.sockets_foldl_clear _ _
  refine ⟨?_, ?_, h.exact_sent⟩
  · rw [hsockets]
    exact h.distinct
  · intro steering hsome
    cases hsteering.symm.trans hsome

lemma handleAgentEventClose
    (connectionNonce : String) : WellControlled (s.handleAgentEventClose env connectionNonce) := by
  unfold TaskControlSession.handleAgentEventClose
  split
  next => exact h
  next attachment _ =>
    have hclosed : WellControlled (s.runSession env
        (.membership (.agentEventClose attachment.participantId connectionNonce))) :=
      h.runSession hsteering _
    refine ⟨?_, ?_, hclosed.exact_sent⟩
    · intro attachment hmem
      exact hclosed.distinct attachment (KeyedMap.mem_erase.mp hmem).1
    · intro steering hsome
      cases hsteering.symm.trans hsome

end

lemma step {event : TaskControlEvent}
    (henabled : s.Enabled event) : WellControlled (s.step env event) := by
  cases event with
  | agentTaskExecution => exact h.agentTaskExecution _ _ _ _
  | taskInterrupt => exact h.taskInterrupt henabled _ _ _ _
  | taskInterruptAndSend => exact h.taskInterruptAndSend henabled _ _ _
  | finishSteer => exact h.finishSteer _
  | agentEventConnection => exact h.handleAgentEventConnection henabled.1 _ _ _
  | agentEventClose => exact h.handleAgentEventClose henabled _
  | session op => exact h.runSession henabled.1 op
  | restart => exact ⟨h.distinct, nofun, h.exact_sent⟩

end

end WellControlled

lemma wellControlled_of_reachable {s : TaskControlSession} (h : taskControlSystem.Reachable s) :
    WellControlled s := by
  refine h.invariant ?_ ?_
  · rintro s rfl
    refine ⟨?_, ?_, ?_⟩
    · intro attachment hmem
      exact absurd hmem List.not_mem_nil
    · intro steering hsome
      cases hsome
    · intro sent hmem
      exact absurd hmem List.not_mem_nil
  · rintro s ⟨env, event⟩ s' hwell - ⟨henabled, rfl⟩
    exact hwell.step henabled

/-- In every run, every control that is sent is exact. -/
theorem controlExact_of_reachable {s : TaskControlSession} (h : taskControlSystem.Reachable s) :
    ∀ sent ∈ s.sent, ControlExact sent :=
  (wellControlled_of_reachable h).exact_sent

/-! ## A steered turn -/

/-- A run in which a Human starts a Task and steers its third turn. -/
def steeringRun : List (RoomEnv × TaskControlEvent) :=
  [.session (.agentCreateRoom (exampleRegistration "agent-a" (by decide))),
    .session (.register (exampleRegistration "human-a" (by decide))
      (.human "session-a" (by decide))),
    .session (.membership (.connectHuman "human-a" "token" "nonce-h")),
    .agentEventConnection "agent-a" "token" "nonce-a",
    .session (.collab (.humanRequest "human-a" "token" (.str "agent-a") (.str "task-1")
      (.str "draft the notes") .undefined "unused")),
    .agentTaskExecution "agent-a" "token"
      (.obj [("taskRequestId", .str "task-1"), ("queuedCount", .int 0),
        ("currentTurnSequence", .int 3), ("phase", .str "running")]) fun _ => true,
    .taskInterruptAndSend "human-a" "token"
      { taskRequestId := .str "task-1", turnSequence := .int 3, text := .str "shorter" },
    .finishSteer fun _ => true].map (fixedEnv true, ·)

/-- The session after the run. -/
def steeredSession : TaskControlSession :=
  steeringRun.foldl (fun s label => s.step label.1 label.2) {}

/-- The frame of the run asks for the third turn to yield to the second message. -/
theorem controlExact_steered : ∃ sent ∈ steeredSession.sent,
    sent.frame = ⟨.steer, "task-1", 3, some 2⟩ ∧ ControlExact sent := by
  have hreach : taskControlSystem.Reachable steeredSession := by
    have hrun : TransitionSystem.enabledRun
        (fun (s : TaskControlSession) (label : RoomEnv × TaskControlEvent) =>
          decide (s.Enabled label.2))
        (fun s label => s.step label.1 label.2) {} steeringRun = true := by decide +kernel
    refine TransitionSystem.Reachable.foldl ?_ (.init rfl) hrun
    intro s label henabled
    exact ⟨of_decide_eq_true henabled, rfl⟩
  have hsent : steeredSession.sent.map (·.frame) = [⟨.steer, "task-1", 3, some 2⟩] := by
    decide +kernel
  have hmem : ⟨.steer, "task-1", 3, some 2⟩ ∈ steeredSession.sent.map (·.frame) := by
    rw [hsent]
    exact List.mem_singleton_self _
  obtain ⟨sent, hmem, hframe⟩ := List.mem_map.mp hmem
  exact ⟨sent, hmem, hframe, controlExact_of_reachable hreach sent hmem⟩

end Free4Chat
