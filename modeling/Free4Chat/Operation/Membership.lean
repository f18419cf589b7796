import Free4Chat.Room.Permission

/-!
# Membership

The operations by which participants join, connect, disconnect and leave, and the alarm that
expires those who stay away. An operation answers with an error, or with the record to save, or
with nothing to save.

* `RoomRecord.registerHuman` and `RoomRecord.registerAgent`: joining.
* `RoomRecord.closeSocket` and `RoomRecord.agentEventClose`: losing a connection.
* `RoomRecord.humanLeave`, `RoomRecord.controlLeave` and `RoomRecord.agentLeave`: leaving.
* `RoomRecord.alarm`: expires permission requests, disconnected Humans and lapsed Agents.
-/

namespace Free4Chat

def MAX_ROOM_PARTICIPANTS : ℕ := 32
def AGENT_LEASE_MS : ℕ := 90 * 1000
def RECONNECT_GRACE_MS : ℕ := 30 * 1000

/-- What the Worker registers a participant with. The Worker generates the id. -/
structure Registration where
  id : String
  name : String
  token : String
  joinedAt : ℕ
  id_ne : id ≠ ""

/-- A Runtime Host projection that passed validation. -/
abbrev ValidRuntimeHost :=
  { host : RuntimeHostProjection // isValidRuntimeHostId host.runtimeHostId = true }

namespace RoomRecord

variable (env : RoomEnv)

/-! ## Participants -/

/-- The participant that an id and a token authenticate. A session id, unless empty, has to be the
one of the participant's media. -/
def findParticipant (room : RoomRecord) (participantId token : String)
    (sessionId : String) : Option RoomParticipant :=
  (room.participants.get? participantId).filter fun participant =>
    participant.token = token &&
      (sessionId = "" || participant.media.any fun media => media.sessionId = sessionId)

/-- The Agent that an id and a token authenticate. -/
def findAgent (room : RoomRecord) (participantId token : String) :
    Except String RoomParticipant :=
  match room.findParticipant participantId token "" with
  | none => .error "unauthorized"
  | some participant =>
    if participant.kind = .agent then .ok participant else .error "agent_only"

/-- The Human behind a client message: it has the token of its connection, and media. -/
def findHumanClient (room : RoomRecord) (participantId token : String) :
    Except String RoomParticipant :=
  match room.findParticipant participantId token "" with
  | none => .error "unauthorized"
  | some participant =>
    if participant.kind = .human && participant.media.isSome then .ok participant
    else .error "unauthorized"

/-- Changes one participant. -/
def updateParticipant (room : RoomRecord) (participantId : String)
    (f : RoomParticipant → RoomParticipant) (hf : ∀ participant, (f participant).id =
      participant.id) : RoomRecord :=
  { room with participants := room.participants.modify participantId f hf }

/-- Records that a participant was seen. -/
def touch (room : RoomRecord) (participantId : String) : RoomRecord :=
  room.updateParticipant participantId
    (fun participant => { participant with lastSeenAt := env.now }) fun _ => rfl

/-! ## Joining -/

/-- The record of a Room that is created. -/
def newRoom : RoomRecord := { createdAt := env.now, expiresAt := NO_EXPIRY }

/-- Adds a participant to the Room. -/
def addParticipant (room : RoomRecord) (participant : RoomParticipant) :
    Except String RoomRecord :=
  if room.participants.contains participant.id then .error "participant_exists"
  else if MAX_ROOM_PARTICIPANTS ≤ room.participants.size then .error "room_full"
  else .ok { room with participants := room.participants.set participant }

/-- Registers a Human, who is disconnected until its WebSocket opens. -/
def registerHuman (room : RoomRecord) (request : Registration) (sessionId : String) :
    Except String RoomRecord := do
  let room ← room.addParticipant
    { id := request.id
      name := request.name
      kind := .human
      connected := false
      joinedAt := request.joinedAt
      lastSeenAt := env.now
      token := request.token
      media := some { sessionId, appDataChannelReady := some false } }
  return room.applyEmptyRoomExpiry env

/-- Registers an Agent, with the projection of its Runtime Host if it has one. The projection
replaces the one stored under the same id. -/
def registerAgent (room : RoomRecord) (request : Registration)
    (runtimeHost : Option ValidRuntimeHost) : Except String RoomRecord := do
  let room ← room.addParticipant
    { id := request.id
      name := request.name
      kind := .agent
      connected := true
      joinedAt := request.joinedAt
      lastSeenAt := env.now
      token := request.token
      runtimeHostId := runtimeHost.map (·.val.runtimeHostId) }
  let runtimeHosts := match runtimeHost with
    | none => room.runtimeHosts
    | some host => registerRuntimeHost room.runtimeHosts host.val
  return { room with runtimeHosts }.applyEmptyRoomExpiry env

/-! ## Connections -/

/-- A Human opens its WebSocket. -/
def connectHuman (room : RoomRecord) (participantId token connectionNonce : String) :
    Except String RoomRecord := do
  let human ← room.findHumanClient participantId token
  return room.updateParticipant human.id (fun participant =>
    { participant with
      connected := true
      connectionNonce := some connectionNonce
      lastSeenAt := env.now }) fun _ => rfl

/-- The WebSocket of a Human closes. -/
def closeSocket (room : RoomRecord) (participantId connectionNonce : String) :
    Option RoomRecord :=
  match room.participants.get? participantId with
  | none => none
  | some participant =>
    if participant.connectionNonce ≠ some connectionNonce then none
    else
      some (room.updateParticipant participantId (fun participant =>
        { participant with
          connected := false
          lastSeenAt := env.now
          connectionNonce := none }) fun _ => rfl).clearAgentVoiceReadiness

/-- An Agent opens its event stream, while its lease is valid. -/
def agentEventConnection (room : RoomRecord) (participantId token connectionNonce : String) :
    Except String RoomRecord := do
  let agent ← (room.findAgent participantId token).mapError fun _ => "unauthorized"
  Except.rejectWhen (agent.lastSeenAt + AGENT_LEASE_MS ≤ env.now) "unauthorized"
  return room.updateParticipant agent.id (fun participant =>
    { participant with
      connected := true
      connectionNonce := some connectionNonce
      lastSeenAt := env.now
      participantDataTransport := none }) fun _ => rfl

/-- The Agent behind an event stream. -/
def eventStreamAgent (room : RoomRecord) (participantId connectionNonce : String) :
    Option RoomParticipant :=
  (room.participants.get? participantId).filter fun participant =>
    participant.kind = .agent && participant.connectionNonce = some connectionNonce

/-- A heartbeat on an Agent's event stream. -/
def agentEventHeartbeat (room : RoomRecord) (participantId connectionNonce : String) :
    Option RoomRecord :=
  (room.eventStreamAgent participantId connectionNonce).map fun agent =>
    room.updateParticipant agent.id (fun participant =>
      { participant with connected := true, lastSeenAt := env.now }) fun _ => rfl

/-- An Agent's event stream closes. Its media is left as it is. -/
def agentEventClose (room : RoomRecord) (participantId connectionNonce : String) :
    Option RoomRecord :=
  (room.eventStreamAgent participantId connectionNonce).map fun agent =>
    room.updateParticipant agent.id (fun participant =>
      { participant with
        connected := false
        connectionNonce := none
        lastSeenAt := env.now
        participantDataTransport := none }) fun _ => rfl

/-! ## Leaving -/

/-- Removes a participant from the map. -/
def removeParticipant (room : RoomRecord) (participantId : String) : RoomRecord :=
  { room with participants := room.participants.erase participantId }

/-- Stages the subscriptions of an Agent whose host produces the transcript. -/
def stageProducerSubscription (room : RoomRecord) (participant : RoomParticipant) : RoomRecord :=
  match room.liveTranscript with
  | .inactive => room
  | .active producerRuntimeHostId _ _ =>
    if participant.runtimeHostId = some producerRuntimeHostId then
      room.stageAgentMediaRevocation participant.id .subscribed
    else room

/-- Stages the media that a departing participant loses with its grants. -/
def stageDeparture (room : RoomRecord) (participant : RoomParticipant) : RoomRecord :=
  room.stageMediaGrantRevocations env
    (transitionMediaGrantsForParticipantDeparture room.meetingNotes room.agentVoice participant).2.2

/-- The record with the grants that a departure from an earlier record leaves. -/
def setDepartureGrants (room : RoomRecord) (before : RoomRecord) (participant : RoomParticipant) :
    RoomRecord :=
  let transition := transitionMediaGrantsForParticipantDeparture before.meetingNotes
    before.agentVoice participant
  { room with meetingNotes := transition.1, agentVoice := transition.2.1 }

/-- A Human leaves by its WebSocket. -/
def humanLeave (room : RoomRecord) (human : RoomParticipant) : RoomRecord :=
  ((room.clearAgentVoiceReadiness.removeParticipant
    human.id).garbageCollectRuntimeHostAuthorization env).applyEmptyRoomExpiry env

/-- A participant leaves by a control request. An Agent stays in the map. -/
def controlLeave (room : RoomRecord) (participant : RoomParticipant) : RoomRecord :=
  let staged := room.stageDeparture env participant
  let left := match participant.kind with
    | .agent => staged.expirePermissionRequests env (some participant.id)
    | .human => staged.removeParticipant participant.id
  ((left.garbageCollectRuntimeHostAuthorization env).setDepartureGrants room
    participant).applyEmptyRoomExpiry env

/-- An Agent leaves. -/
def agentLeave (room : RoomRecord) (agent : RoomParticipant) : RoomRecord :=
  let staged := (room.stageDeparture env agent).stageProducerSubscription agent
  let left := (staged.expirePermissionRequests env (some agent.id)).removeParticipant agent.id
  ((left.garbageCollectRuntimeHostAuthorization env).setDepartureGrants room
    agent).applyEmptyRoomExpiry env

/-! ## The alarm -/

/-- Whether a Human has been disconnected for longer than the grace period. -/
def isExpiredHuman (participant : RoomParticipant) : Bool :=
  participant.kind = .human && !participant.connected &&
    participant.lastSeenAt + RECONNECT_GRACE_MS ≤ env.now

/-- Whether the lease of an Agent has lapsed. -/
def isExpiredAgent (participant : RoomParticipant) : Bool :=
  participant.kind = .agent && participant.lastSeenAt + AGENT_LEASE_MS ≤ env.now

/-- Whether the alarm removes a participant. -/
def isExpiredParticipant (participant : RoomParticipant) : Bool :=
  isExpiredHuman env participant || isExpiredAgent env participant

/-- Stages the media of an expired participant. -/
def stageExpired (room : RoomRecord) (participant : RoomParticipant) : RoomRecord :=
  if isExpiredAgent env participant then
    (room.stageDeparture env participant).stageProducerSubscription participant
  else room.stageDeparture env participant

/-- Removes an expired participant. -/
def expireParticipant (room : RoomRecord) (participant : RoomParticipant) : RoomRecord :=
  let staged := room.stageExpired env participant
  -- The expiry of an Agent's permission requests is nested under the check for a Human.
  let left :=
    if isExpiredHuman env participant then
      if isExpiredAgent env participant then
        staged.expirePermissionRequests env (some participant.id)
      else staged
    else staged
  ((left.removeParticipant participant.id).garbageCollectRuntimeHostAuthorization
    env).setDepartureGrants room participant

/-- The alarm: the record to save, if anything changed. -/
def alarm (room : RoomRecord) : Option RoomRecord :=
  let expired := room.participants.values.filter (isExpiredParticipant env)
  if room.hasExpiringPermission env none || !expired.isEmpty then
    some ((expired.foldl (expireParticipant env)
      (room.expirePermissionRequests env none)).applyEmptyRoomExpiry env)
  else none

end RoomRecord

/-! ## Operations -/

/-- The operations on connections and departures, and the alarm. -/
inductive MembershipOp where
  | connectHuman (participantId token connectionNonce : String)
  | closeSocket (participantId connectionNonce : String)
  | agentEventConnection (participantId token connectionNonce : String)
  | agentEventHeartbeat (participantId connectionNonce : String)
  | agentEventClose (participantId connectionNonce : String)
  | humanLeave (participantId token : String)
  | controlLeave (participantId token : String)
  | agentLeave (participantId token : String)
  | alarm

/-- The record that an operation saves, if it saves one. -/
def MembershipOp.apply (env : RoomEnv) (room : RoomRecord) : MembershipOp → Option RoomRecord
  | .connectHuman participantId token connectionNonce =>
    (room.connectHuman env participantId token connectionNonce).toOption
  | .closeSocket participantId connectionNonce => room.closeSocket env participantId connectionNonce
  | .agentEventConnection participantId token connectionNonce =>
    (room.agentEventConnection env participantId token connectionNonce).toOption
  | .agentEventHeartbeat participantId connectionNonce =>
    room.agentEventHeartbeat env participantId connectionNonce
  | .agentEventClose participantId connectionNonce =>
    room.agentEventClose env participantId connectionNonce
  | .humanLeave participantId token =>
    (room.findHumanClient participantId token).toOption.map (room.humanLeave env)
  | .controlLeave participantId token =>
    (room.findParticipant participantId token "").map (room.controlLeave env)
  | .agentLeave participantId token =>
    (room.findAgent participantId token).toOption.map (room.agentLeave env)
  | .alarm => room.alarm env

end Free4Chat
