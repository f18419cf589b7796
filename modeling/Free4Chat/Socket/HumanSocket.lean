import Free4Chat.Data.SlidingWindow
import Free4Chat.Operation.Membership
import Free4Chat.Transition.Reachable

/-!
# Human Sockets

The socket of a Human carries an attachment that survives hibernation, and handlers keep their
state there. A handler reads the attachment when its message arrives and writes back the whole of
it. Two handlers await the catalog of Room Apps in between, so that other messages of the socket
are handled meanwhile.

* `ConnectionAttachment`: the attachment.
* `consumeRoomAppUnicastBudget` and `handleRoomAppUnicast`: private messages between Room Apps.
* `handleRoomAppHostState`: which Room Apps the browser hosts.
* `HumanSocket` and `HumanSocket.step`: the socket with the handlers that await the catalog.
-/

namespace Free4Chat

open JsString (isTokenChar utf16Units)

/-! ## Room Apps -/

def ROOM_APP_MAX_PAYLOAD_BYTES : ℕ := 16 * 1024
def ROOM_APP_MAX_INSTANCES : ℕ := 2
def ROOM_APP_UNICAST_MESSAGES_PER_SECOND : ℕ := 10
def ROOM_APP_UNICAST_BYTES_PER_SECOND : ℕ := 64 * 1024

/-- A Room App of the installed catalog. The catalog holds parsed entries only, whose URL and
origin follow from the id, and all of them are valid and on the list of allowed Apps. -/
structure RoomAppDefinition where
  id : String
  label : String
deriving DecidableEq, Repr

/-- The installed catalog. -/
abbrev RoomAppCatalog := List RoomAppDefinition

/-- The UTF-16 code units of a character. -/
def utf16CodeUnits (c : Char) : List ℕ :=
  if c.toNat < 0x10000 then [c.toNat]
  else [0xD800 + (c.toNat - 0x10000) / 0x400, 0xDC00 + (c.toNat - 0x10000) % 0x400]

/-- One round of the hash of an instance id. -/
def hashCodeUnit (hash codeUnit : ℕ) : ℕ := ((hash ^^^ codeUnit) * 0x01000193) % 2 ^ 32

/-- The instance id of an App in a Room. -/
def roomAppInstanceId (roomName appId : String) : String :=
  let hash := ((s!"{roomName}:{appId}".toList.flatMap utf16CodeUnits).foldl hashCodeUnit
    0x811c9dc5)
  let digits := Nat.toDigits 16 hash
  let padded := String.ofList (List.replicate (8 - digits.length) '0' ++ digits)
  s!"{appId}:{padded}"

/-- The App of the catalog behind an instance id of a Room. -/
def roomAppOfInstance (roomName : String) (catalog : RoomAppCatalog) (appInstanceId : String) :
    Option RoomAppDefinition :=
  catalog.find? fun app => roomAppInstanceId roomName app.id = appInstanceId

/-- Whether an instance id is that of an App of the catalog in a Room. -/
def isRoomAppInstanceForRoom (roomName : String) (catalog : RoomAppCatalog)
    (appInstanceId : String) : Bool :=
  catalog.any fun app => roomAppInstanceId roomName app.id = appInstanceId

/-- The characters of an instance id after the first. -/
def isInstanceIdChar (c : Char) : Bool := c.isLower || c.isDigit || c == ':' || c == '-'

/-- The pattern `^[a-z0-9][a-z0-9:-]{0,95}$` of instance ids. -/
def isValidRoomAppInstanceId (id : String) : Bool :=
  match id.toList with
  | [] => false
  | c :: cs => (c.isLower || c.isDigit) && cs.all isInstanceIdChar && cs.length ≤ 95

/-- The pattern `^[A-Za-z0-9_-]{1,64}$` of request ids of Room Apps. -/
def isValidRoomAppRequestId (id : String) : Bool :=
  JsString.ofCharClass (fun c => c.isAlphanum || c == '_' || c == '-') 1 64 id

/-- The pattern `^[A-Za-z0-9][A-Za-z0-9:_-]{0,127}$` of participant ids. -/
def isValidRoomAppParticipantId (id : String) : Bool :=
  match id.toList with
  | [] => false
  | c :: cs => c.isAlphanum && cs.length ≤ 127 &&
      cs.all fun c => c.isAlphanum || c == ':' || c == '_' || c == '-'

/-! ## The attachment -/

/-- A unicast that was granted. -/
structure RoomAppUnicastRateSample where
  at' : ℕ
  bytes : ℕ
deriving DecidableEq, Repr

/-- A Room App that the browser hosts. Only curated Apps are hosted. -/
structure RoomAppHostMetadata where
  appInstanceId : String
  appId : String
  title : String
deriving DecidableEq, Repr

instance : Keyed RoomAppHostMetadata String where
  key := RoomAppHostMetadata.appInstanceId

/-- A pending discovery of Task sessions. -/
structure PendingTaskSessionDiscovery where
  requestId : String
  targetAgentId : String
  expiresAt : ℕ
deriving DecidableEq, Repr

/-- A pending start of a Task in an existing session. -/
structure PendingTaskSessionStart where
  requestId : String
  taskRequestId : String
  targetAgentId : String
  summary : String
  attachmentIds : Option (List String) := none
  expiresAt : ℕ
deriving DecidableEq, Repr

/-- The attachment of a Human socket. An absent list counts as an empty one. -/
structure ConnectionAttachment where
  participantId : String
  token : String
  connectionNonce : String
  roomAppUnicastRateSamples : List RoomAppUnicastRateSample := []
  activeRoomAppInstances : List String := []
  activeRoomApps : List RoomAppHostMetadata := []
  pendingTaskSessionDiscovery : Option PendingTaskSessionDiscovery := none
  pendingTaskSessionStart : Option PendingTaskSessionStart := none
deriving DecidableEq, Repr

/-- What handlers observe of the deployment. -/
structure SocketEnv where
  roomName : String
  roomAppsEnabled : Bool
  -- UTF-8 length of a serialized value, when it can be serialized.
  serializedRoomAppBytes : JsValue → Option ℕ

/-! ## The rate of unicasts -/

/-- The limit of unicasts: how many, and how many bytes, in any second. -/
def unicastRateLimit : RateLimit :=
  { width := 1000
    maxCount := ROOM_APP_UNICAST_MESSAGES_PER_SECOND
    maxSize := ROOM_APP_UNICAST_BYTES_PER_SECOND }

/-- The samples that count against a unicast now. -/
def countedSamples (attachment : ConnectionAttachment) (now : ℕ) :
    List RoomAppUnicastRateSample :=
  (takeLast ROOM_APP_UNICAST_MESSAGES_PER_SECOND attachment.roomAppUnicastRateSamples).filter
    fun sample => now < sample.at' + 1000 && sample.at' ≤ now &&
      sample.bytes ≤ ROOM_APP_MAX_PAYLOAD_BYTES

/-- Decides about the budget of one unicast. -/
inductive UnicastBudget where
  | allowed (attachment : ConnectionAttachment)
  | rateLimited
  | deliveryFailed

/-- Consumes the budget of one unicast: the attachment to go on with is written before anything is
delivered. Writing it can fail. -/
def consumeRoomAppUnicastBudget (attachment : ConnectionAttachment) (bytes now : ℕ)
    (writable : Bool) : UnicastBudget :=
  let samples := countedSamples attachment now
  if ROOM_APP_UNICAST_MESSAGES_PER_SECOND ≤ samples.length ∨
      ROOM_APP_UNICAST_BYTES_PER_SECOND < (samples.map (·.bytes)).sum + bytes then .rateLimited
  else if writable then
    .allowed { attachment with
      roomAppUnicastRateSamples := samples ++ [{ at' := now, bytes }] }
  else .deliveryFailed

/-! ## Unicasts -/

/-- A socket as the delivery of a unicast finds it. -/
structure SocketCandidate where
  attachment : ConnectionAttachment
  isOpen : Bool
deriving DecidableEq, Repr

/-- A unicast message that awaits the catalog: the attachment and the Room it was received with. -/
structure RoomAppUnicast where
  attachment : ConnectionAttachment
  room : RoomRecord
  sender : RoomParticipant
  requestId : String
  appInstanceId : String
  message : JsValue

/-- The part of a unicast before the catalog is awaited. Messages without a valid id get no
answer. -/
def receiveRoomAppUnicast (env : SocketEnv) (attachment : ConnectionAttachment)
    (room : RoomRecord) (message : JsValue) : Except (Option (String × String)) RoomAppUnicast := do
  let requestId ← Except.require (((message.get "requestId").asString?).filter
    isValidRoomAppRequestId) none
  let appInstanceId ← Except.require (((message.get "appInstanceId").asString?).filter
    isValidRoomAppInstanceId) none
  Except.rejectWhen (env.roomAppsEnabled = false) (some (requestId, "app_unavailable"))
  let sender ← Except.require ((room.participants.get? attachment.participantId).filter
    fun sender => sender.kind = .human && sender.connected &&
      sender.connectionNonce = some attachment.connectionNonce)
    (some (requestId, "invalid_request"))
  return { attachment, room, sender, requestId, appInstanceId, message }

/-- Whether a payload may be sent: a record that does not name its sender, and that is small. -/
def validateRoomAppPayload (env : SocketEnv) (payload : JsValue) : Bool :=
  payload.asRecord?.any (fun entries => (entries.lookup "sourceParticipantId").isNone) &&
    (env.serializedRoomAppBytes payload).any (· ≤ ROOM_APP_MAX_PAYLOAD_BYTES)

/-- The socket that a unicast is delivered to: an open one of the connection that its target had
when the message was received. -/
def targetSocket (target : RoomParticipant) (candidates : List SocketCandidate) :
    Option SocketCandidate :=
  candidates.find? fun candidate => candidate.attachment.participantId = target.id &&
    candidate.attachment.token = target.token &&
    some candidate.attachment.connectionNonce = target.connectionNonce && candidate.isOpen

/-- The frame that a unicast delivers. -/
def unicastDelivery (unicast : RoomAppUnicast) : JsValue :=
  .obj [("type", .str "room-app-unicast"), ("protocolVersion", .int 1),
    ("appInstanceId", .str unicast.appInstanceId),
    ("sourceParticipantId", .str unicast.sender.id),
    ("payload", unicast.message.get "payload")]

/-- What a unicast did: the attachment it wrote, if it wrote one, and to whom it was delivered, or
why it was not. -/
structure UnicastOutcome where
  written : Option ConnectionAttachment
  delivered : Except String SocketCandidate

/-- A unicast that fails without having written anything. -/
def UnicastOutcome.refused (error : String) : UnicastOutcome :=
  { written := none, delivered := .error error }

/-- Delivers a unicast whose budget was granted. -/
def RoomAppUnicast.deliver (env : SocketEnv) (unicast : RoomAppUnicast)
    (targetParticipantId : String) (candidates : List SocketCandidate) (sendable : Bool) :
    Except String SocketCandidate := do
  let target ← Except.require ((unicast.room.participants.get? targetParticipantId).filter
    fun target => target.kind = .human && target.connected && target.token ≠ "" &&
      (JsString.nonempty? target.connectionNonce).isSome) "target_unavailable"
  let socket ← Except.require (targetSocket target candidates) "target_unavailable"
  Except.rejectWhen (((env.serializedRoomAppBytes (unicastDelivery unicast)).all
    (ROOM_APP_MAX_PAYLOAD_BYTES < ·)) = true) "invalid_request"
  Except.rejectWhen (sendable = false) "delivery_failed"
  return socket

/-- The part of a unicast after the catalog is there. -/
def RoomAppUnicast.handle (env : SocketEnv) (unicast : RoomAppUnicast) (catalog : RoomAppCatalog)
    (now : ℕ) (writable : Bool) (candidates : List SocketCandidate) (sendable : Bool) :
    UnicastOutcome :=
  if isRoomAppInstanceForRoom env.roomName catalog unicast.appInstanceId = false then
    .refused "app_unavailable"
  else
    match ((unicast.message.get "targetParticipantId").asString?).filter
        isValidRoomAppParticipantId with
    | none => .refused "invalid_target"
    | some target =>
      if target = unicast.sender.id then .refused "invalid_target"
      else
        match (env.serializedRoomAppBytes unicast.message).filter fun bytes =>
            bytes ≤ ROOM_APP_MAX_PAYLOAD_BYTES &&
              validateRoomAppPayload env (unicast.message.get "payload") with
        | none => .refused "invalid_request"
        | some bytes =>
          match consumeRoomAppUnicastBudget unicast.attachment bytes now writable with
          | .rateLimited => .refused "rate_limited"
          | .deliveryFailed => .refused "delivery_failed"
          | .allowed attachment =>
            { written := some attachment
              delivered := unicast.deliver env target candidates sendable }

lemma attachment_of_receiveRoomAppUnicast {env : SocketEnv} {attachment : ConnectionAttachment}
    {room : RoomRecord} {message : JsValue} {unicast : RoomAppUnicast}
    (h : receiveRoomAppUnicast env attachment room message = .ok unicast) :
    unicast.attachment = attachment := by
  simp only [receiveRoomAppUnicast, Except.bind_eq_ok, Except.pure_eq_ok] at h
  obtain ⟨requestId, -, appInstanceId, -, -, -, sender, -, rfl⟩ := h
  rfl

lemma RoomAppUnicast.handle_written {env : SocketEnv} {unicast : RoomAppUnicast}
    {catalog : RoomAppCatalog} {now : ℕ} {writable : Bool} {candidates : List SocketCandidate}
    {sendable : Bool} {attachment : ConnectionAttachment}
    (h : (unicast.handle env catalog now writable candidates sendable).written =
      some attachment) :
    ∃ target bytes, (unicast.message.get "targetParticipantId").asString? = some target ∧
      env.serializedRoomAppBytes unicast.message = some bytes ∧
      bytes ≤ ROOM_APP_MAX_PAYLOAD_BYTES ∧
      consumeRoomAppUnicastBudget unicast.attachment bytes now writable = .allowed attachment ∧
      (unicast.handle env catalog now writable candidates sendable).delivered =
        unicast.deliver env target candidates sendable := by
  unfold handle at h ⊢
  split at h
  · cases h
  · rename_i hcatalog
    rw [if_neg hcatalog]
    split at h
    · cases h
    · rename_i target htarget
      split at h
      · cases h
      · rename_i hself
        split at h
        · cases h
        · rename_i bytes hbytes
          split at h
          · cases h
          · cases h
          · rename_i granted hgranted
            obtain rfl := Option.some.inj h
            obtain ⟨hserialized, hsmall⟩ := Option.filter_eq_some_iff.mp hbytes
            simp only [Bool.and_eq_true, decide_eq_true_eq] at hsmall
            refine ⟨target, bytes, (Option.filter_eq_some_iff.mp htarget).1, hserialized,
              hsmall.1, hgranted, ?_⟩
            rw [if_neg hself]

lemma RoomAppUnicast.handle_written_congr (env : SocketEnv) (unicast : RoomAppUnicast)
    (catalog : RoomAppCatalog) (now : ℕ) (writable : Bool)
    (candidates candidates' : List SocketCandidate) (sendable sendable' : Bool) :
    (unicast.handle env catalog now writable candidates sendable).written =
      (unicast.handle env catalog now writable candidates' sendable').written := by
  unfold handle
  split
  · rfl
  · split
    · rfl
    · split
      · rfl
      · split
        · rfl
        · split <;> rfl

lemma consumeRoomAppUnicastBudget_eq_allowed {attachment granted : ConnectionAttachment}
    {bytes now : ℕ} {writable : Bool}
    (h : consumeRoomAppUnicastBudget attachment bytes now writable = .allowed granted) :
    granted = { attachment with
        roomAppUnicastRateSamples := countedSamples attachment now ++ [{ at' := now, bytes }] } ∧
      (countedSamples attachment now).length < ROOM_APP_UNICAST_MESSAGES_PER_SECOND ∧
      ((countedSamples attachment now).map (·.bytes)).sum + bytes ≤
        ROOM_APP_UNICAST_BYTES_PER_SECOND := by
  simp only [consumeRoomAppUnicastBudget] at h
  split at h
  · cases h
  · rename_i hlimit
    split at h
    · obtain rfl := UnicastBudget.allowed.inj h
      exact ⟨rfl, by omega, by omega⟩
    · cases h

/-! ## Host states -/

/-- Whether a Room still has the Human behind a socket: present, connected and on this
connection. -/
def isCurrentHost (room : Option RoomRecord) (attachment : ConnectionAttachment) : Bool :=
  room.any fun room =>
    (room.findParticipant attachment.participantId attachment.token "").any fun participant =>
      participant.kind = .human && participant.media.isSome && participant.connected &&
        participant.connectionNonce = some attachment.connectionNonce

/-- The instances that an attachment lists. -/
def currentInstances (attachment : ConnectionAttachment) : List String :=
  (attachment.activeRoomAppInstances.filter isValidRoomAppInstanceId).take ROOM_APP_MAX_INSTANCES

/-- The instances after one more is declared ready. There is room for few. -/
def declareReady (instances : List String) (appInstanceId : String) : List String :=
  (instances ++ [appInstanceId]).distinct.take ROOM_APP_MAX_INSTANCES

/-- The instances after one is declared not ready. -/
def declareNotReady (instances : List String) (appInstanceId : String) : List String :=
  instances.filter (· ≠ appInstanceId)

/-- The metadata of the listed instances, with that of an instance declared ready. -/
def hostMetadata (attachment : ConnectionAttachment) (current next : List String)
    (ready : Option RoomAppHostMetadata) : List RoomAppHostMetadata :=
  let known := (attachment.activeRoomApps.filter fun app => app.appInstanceId ∈ current).foldl
    KeyedMap.set (KeyedMap.empty (V := RoomAppHostMetadata))
  next.filterMap (ready.elim known known.set).get?

/-- The metadata under which an instance is declared ready: its App is in the catalog. -/
def readyMetadata (env : SocketEnv) (catalog : RoomAppCatalog) (appInstanceId : String) :
    Option RoomAppHostMetadata :=
  (roomAppOfInstance env.roomName catalog appInstanceId).map fun definition =>
    { appInstanceId, appId := definition.id, title := definition.label }

/-- The attachment after an instance is declared ready. -/
def writeReady (attachment : ConnectionAttachment) (metadata : RoomAppHostMetadata) :
    ConnectionAttachment :=
  let current := currentInstances attachment
  let next := declareReady current metadata.appInstanceId
  { attachment with
    activeRoomAppInstances := next
    activeRoomApps := hostMetadata attachment current next (some metadata) }

/-- The attachment after an instance is declared not ready. -/
def writeNotReady (attachment : ConnectionAttachment) (appInstanceId : String) :
    ConnectionAttachment :=
  let current := currentInstances attachment
  let next := declareNotReady current appInstanceId
  { attachment with
    activeRoomAppInstances := next
    activeRoomApps := hostMetadata attachment current next none }

/-! ## The socket -/

/-- A handler that awaits the catalog. -/
inductive SuspendedHandler where
  -- A host state, with the number under which it arrived.
  | hostState (attachment : ConnectionAttachment) (arrival : ℕ) (appInstanceId : String)
  | unicast (request : RoomAppUnicast)

/-- The attachment that a handler has read. -/
def SuspendedHandler.attachment : SuspendedHandler → ConnectionAttachment
  | .hostState attachment _ _ => attachment
  | .unicast request => request.attachment

/-- What became of a host state: it awaits the catalog, was dropped, or took effect. -/
inductive HostStateDecision where
  | pending
  | dropped
  | accepted
deriving DecidableEq, Repr

/-- A host state that arrived. -/
structure HostStateArrival where
  appInstanceId : String
  ready : Bool
  decision : HostStateDecision
deriving DecidableEq, Repr

/-- A unicast that was delivered: when, to which address and socket, and who was in the Room. -/
structure UnicastRecord where
  sample : RoomAppUnicastRateSample
  addressee : String
  socket : SocketCandidate
  participants : Participants

/-- A Human socket. -/
structure HumanSocket where
  attachment : ConnectionAttachment
  suspended : List (ℕ × SuspendedHandler) := []
  -- Specification fields, which no handler reads: the number of writes of the attachment, also the
  -- one before each suspended handler; the host states that arrived; the unicasts that were
  -- granted and delivered; and what the operations of the other fields wrote last.
  writes : ℕ := 0
  arrivals : List HostStateArrival := []
  granted : List RoomAppUnicastRateSample := []
  delivered : List UnicastRecord := []
  lastSamples : List RoomAppUnicastRateSample := []
  lastDiscovery : Option PendingTaskSessionDiscovery := none
  lastStart : Option PendingTaskSessionStart := none

/-- A socket when it is accepted. -/
def HumanSocket.accepted (participantId token connectionNonce : String) : HumanSocket :=
  { attachment := { participantId, token, connectionNonce } }

/-- The operations on a Human socket. -/
inductive HumanSocketOp where
  -- A host state arrives. One that is not ready awaits storage only.
  | hostState (appInstanceId : String) (ready : Bool) (room : Option RoomRecord) (writable : Bool)
  -- A unicast arrives.
  | unicast (room : RoomRecord) (message : JsValue)
  -- A suspended handler goes on. The Room is what storage holds now.
  | resume (index : ℕ) (catalog : RoomAppCatalog) (room : Option RoomRecord) (now : ℕ)
    (writable : Bool) (candidates : List SocketCandidate) (sendable : Bool)
  -- An operation of a Task session reads the attachment and writes it before it awaits anything
  -- but storage.
  | taskSession (discovery : Option PendingTaskSessionDiscovery)
    (start : Option PendingTaskSessionStart)

namespace HumanSocket

variable (env : SocketEnv)

/-- Writes the attachment. -/
def write (s : HumanSocket) (attachment : ConnectionAttachment) : HumanSocket :=
  { s with attachment, writes := s.writes + 1 }

/-- Suspends a handler until the catalog is there. -/
def suspend (s : HumanSocket) (handler : SuspendedHandler) : HumanSocket :=
  { s with suspended := s.suspended ++ [(s.writes, handler)] }

/-- Decides about a host state that arrived. -/
def decide (s : HumanSocket) (arrival : ℕ) (decision : HostStateDecision) : HumanSocket :=
  { s with arrivals := s.arrivals.modify arrival fun arrived : HostStateArrival =>
      { arrived with decision } }

/-- Numbers a host state that arrived. -/
def arrive (s : HumanSocket) (appInstanceId : String) (ready : Bool) : HumanSocket :=
  { s with arrivals := s.arrivals ++ [{ appInstanceId, ready, decision := .pending }] }

/-- A host state arrives. -/
def receiveHostState (s : HumanSocket) (appInstanceId : String) (ready : Bool)
    (room : Option RoomRecord) (writable : Bool) : HumanSocket :=
  if isValidRoomAppInstanceId appInstanceId = false ∨ env.roomAppsEnabled = false then s
  else
    let arrived := s.arrive appInstanceId ready
    if ready then
      arrived.suspend (.hostState s.attachment s.arrivals.length appInstanceId)
    else if isCurrentHost room s.attachment && writable then
      (arrived.write (writeNotReady s.attachment appInstanceId)).decide s.arrivals.length .accepted
    else arrived.decide s.arrivals.length .dropped

/-- A host state goes on with the catalog. -/
def resumeHostState (s : HumanSocket) (attachment : ConnectionAttachment) (arrival : ℕ)
    (appInstanceId : String) (catalog : RoomAppCatalog) (room : Option RoomRecord)
    (writable : Bool) : HumanSocket :=
  match (readyMetadata env catalog appInstanceId).filter fun _ =>
      isCurrentHost room attachment && writable with
  | none => s.decide arrival .dropped
  | some metadata => (s.write (writeReady attachment metadata)).decide arrival .accepted

/-- A unicast goes on with the catalog. -/
def resumeUnicast (s : HumanSocket) (unicast : RoomAppUnicast) (catalog : RoomAppCatalog)
    (room : Option RoomRecord) (now : ℕ) (writable : Bool) (candidates : List SocketCandidate)
    (sendable : Bool) : HumanSocket :=
  let outcome := unicast.handle env catalog now writable candidates sendable
  match outcome.written, (env.serializedRoomAppBytes unicast.message) with
  | some attachment, some bytes =>
    let sample : RoomAppUnicastRateSample := { at' := now, bytes }
    let granted := { s.write attachment with
      granted := s.granted ++ [sample]
      lastSamples := attachment.roomAppUnicastRateSamples }
    match outcome.delivered with
    | .error _ => granted
    | .ok socket =>
      { granted with
        delivered := s.delivered ++
          [{ sample
             addressee := ((unicast.message.get "targetParticipantId").asString?).getD ""
             socket
             participants := room.elim .empty (·.participants) }] }
  | _, _ => s

/-- A suspended handler goes on. -/
def resume (s : HumanSocket) (index : ℕ) (catalog : RoomAppCatalog) (room : Option RoomRecord)
    (now : ℕ) (writable : Bool) (candidates : List SocketCandidate) (sendable : Bool) :
    HumanSocket :=
  match s.suspended[index]? with
  | none => s
  | some (_, handler) =>
    let running := { s with suspended := s.suspended.eraseIdx index }
    match handler with
    | .hostState attachment arrival appInstanceId =>
      running.resumeHostState env attachment arrival appInstanceId catalog room writable
    | .unicast request =>
      running.resumeUnicast env request catalog room now writable candidates sendable

/-- One operation on the socket. -/
def step (s : HumanSocket) : HumanSocketOp → HumanSocket
  | .hostState appInstanceId ready room writable =>
    s.receiveHostState env appInstanceId ready room writable
  | .unicast room message =>
    match receiveRoomAppUnicast env s.attachment room message with
    | .error _ => s
    | .ok unicast => s.suspend (.unicast unicast)
  | .resume index catalog room now writable candidates sendable =>
    s.resume env index catalog room now writable candidates sendable
  | .taskSession discovery start =>
    { s.write { s.attachment with
        pendingTaskSessionDiscovery := discovery
        pendingTaskSessionStart := start } with
      lastDiscovery := discovery
      lastStart := start }

end HumanSocket

/-- The operations on a Human socket from when it is accepted. -/
def humanSocketSystem (env : SocketEnv) : TransitionSystem HumanSocket HumanSocketOp where
  init s := ∃ participantId token connectionNonce,
    s = .accepted participantId token connectionNonce
  step s op s' := s' = s.step env op

namespace HumanSocket

lemma reachableWhen_step {env : SocketEnv} {guard : HumanSocket → HumanSocketOp → Prop}
    {s : HumanSocket} (hreach : (humanSocketSystem env).ReachableWhen guard s)
    {op : HumanSocketOp} (hguard : guard s op) :
    (humanSocketSystem env).ReachableWhen guard (s.step env op) :=
  hreach.step hguard rfl

/-- The socket after operations one after another. -/
def run (env : SocketEnv) (s : HumanSocket) (ops : List HumanSocketOp) : HumanSocket :=
  ops.foldl (step env) s

lemma reachable_run (env : SocketEnv) {s : HumanSocket}
    (hreach : (humanSocketSystem env).Reachable s) (ops : List HumanSocketOp) :
    (humanSocketSystem env).Reachable (s.run env ops) := by
  induction ops generalizing s with
  | nil => exact hreach
  | cons op ops ih => exact ih (hreach.step trivial rfl)

end HumanSocket

/-! ## A lobby -/

mutual

/-- UTF-8 length of a serialized value whose strings are plain ASCII without escapes. -/
def plainJsonBytes : JsValue → ℕ
  | .undefined => 0
  | .null => 4
  | .bool b => if b then 4 else 5
  | .int n => (toString n).length
  | .nonInteger => 4
  | .str s => s.length + 2
  | .arr items => 1 + max 1 (plainItemBytes items)
  | .obj entries => 1 + max 1 (plainEntryBytes entries)

/-- The items of a serialized array, each with the comma or bracket after it. -/
def plainItemBytes : List JsValue → ℕ
  | [] => 0
  | item :: items => plainJsonBytes item + 1 + plainItemBytes items

/-- The entries of a serialized object, each with the comma or brace after it. -/
def plainEntryBytes : List (String × JsValue) → ℕ
  | [] => 0
  | (name, value) :: entries => name.length + 3 + plainJsonBytes value + 1 + plainEntryBytes entries

end

/-- The deployment of a Room named after its purpose. -/
def lobbyEnv : SocketEnv :=
  { roomName := "lobby"
    roomAppsEnabled := true
    serializedRoomAppBytes := fun value => some (plainJsonBytes value) }

/-- A Human with media, on the connection named after it. -/
def lobbyHuman (id : String) : RoomParticipant :=
  { id
    name := id
    kind := .human
    connected := true
    joinedAt := 1
    lastSeenAt := 1
    connectionNonce := some s!"nonce-{id}"
    token := s!"token-{id}"
    media := some { sessionId := s!"session-{id}" } }

/-- A Room with two Humans. -/
def lobby : RoomRecord :=
  { createdAt := 1
    expiresAt := NO_EXPIRY
    participants := (KeyedMap.empty.set (lobbyHuman "ann")).set (lobbyHuman "bob") }

/-- The catalog of two Apps. -/
def lobbyCatalog : RoomAppCatalog :=
  [{ id := "chess", label := "Chess" }, { id := "notes", label := "Notes" }]

/-- The socket of the first Human. -/
def lobbySocket : HumanSocket := .accepted "ann" "token-ann" "nonce-ann"

lemma reachable_lobbySocket {guard : HumanSocket → HumanSocketOp → Prop} :
    (humanSocketSystem lobbyEnv).ReachableWhen guard lobbySocket :=
  .init ⟨"ann", "token-ann", "nonce-ann", rfl⟩

example : roomAppInstanceId "lobby" "chess" = "chess:64a80985" := by decide +kernel

end Free4Chat
