import Free4Chat.Collab.Ingest
import Free4Chat.Transition.Reachable

/-!
# The Room Session

The Durable Object of a Room as a state machine. Its state is the stored Room and the memory of
the running instance. An operation loads the Room, which normalizes and may repair it, and then
saves what its handler returns. An instance may be evicted between any two operations.

* `RoomSession`: the stored Room and the memory of the instance.
* `RoomSession.activeRoom`: the Room that an operation works on.
* `SessionOp` and `RoomSession.step`: the operations.
* `roomSessionSystem`: the transition system of all operations in all environments.
-/

namespace Free4Chat

/-- Number of entries above which the rate windows in memory are swept. -/
def MAX_CLIENT_MESSAGE_WINDOWS : ℕ := 256

/-- The Durable Object of a Room. -/
structure RoomSession where
  stored : Option RoomRecord := none
  -- Memory of the running instance.
  tracking : CollabTracking := {}
  -- Specification field: the tracked requests whose own save was rejected.
  phantoms : List String := []
deriving DecidableEq

namespace RoomSession

variable (env : RoomEnv)

/-- Deletes an expired Room and forgets its collaboration. -/
def expireRoom (s : RoomSession) : RoomSession :=
  { s with
    stored := none
    tracking := { s.tracking with
      collabRegistry := s.tracking.collabRegistry.clear, collabRebuilt := false }
    phantoms := [] }

/-- The Room that an operation works on, and the session after it was loaded. There is none when
nothing is stored, when the load fails, and when the Room has expired. -/
def activeRoom (s : RoomSession) : Option RoomRecord × RoomSession :=
  match s.stored with
  | none => (none, s)
  | some stored =>
    match loadRoom env stored with
    | none => (none, s)
    | some (room, stored) =>
      if room.isExpired env then (none, s.expireRoom)
      else (some room, { s with stored := some stored })

/-- The session after an operation stored a record, if it stored one. -/
def store (s : RoomSession) (saved : Option RoomRecord) : RoomSession :=
  { s with stored := saved.or s.stored }

/-- The session after an ingestion. An ingestion that fails leaves its request a phantom; one that
drops a request from the registry ends its being one. -/
def ingested (s : RoomSession) (room : RoomRecord) (ingestion : CollabIngestion) : RoomSession :=
  let tracked := ingestion.tracking.collabRegistry
  let appeared := tracked.requests.keys.filter fun id =>
    ((s.tracking.warm room).collabRegistry.find id).isNone
  { stored := ingestion.saved.or s.stored
    tracking := ingestion.tracking
    phantoms := s.phantoms.filter (fun id => (tracked.find id).isSome) ++
      if ingestion.answer = .failed then appeared else [] }

/-- The bookkeeping of a recreated Room. -/
def resetCollabTracking (s : RoomSession) : RoomSession :=
  { s with
    tracking := { s.tracking with
      collabRegistry := s.tracking.collabRegistry.clear, collabRebuilt := false }
    phantoms := [] }

end RoomSession

/-- A participant to register: a Human with its media session, or an Agent with its host. -/
inductive RegistrationKind where
  | human (sessionId : String) (sessionId_ne : sessionId ≠ "")
  | agent (runtimeHost : Option ValidRuntimeHost)

/-- The record after a participant is registered. -/
def RegistrationKind.register (kind : RegistrationKind) (env : RoomEnv) (room : RoomRecord)
    (request : Registration) : Except String RoomRecord :=
  match kind with
  | .human sessionId _ => room.registerHuman env request sessionId
  | .agent runtimeHost => room.registerAgent env request runtimeHost

/-- The operations of a Room session. -/
inductive SessionOp where
  -- Joining, which creates a Room that does not exist.
  | register (request : Registration) (kind : RegistrationKind)
  -- Creating a Room that must not exist.
  | agentCreateRoom (request : Registration)
  | membership (op : MembershipOp)
  | media (op : MediaOp)
  | conversation (op : ConversationOp)
  | collab (op : CollabOp)
  -- A Human discards an attachment that it staged for a Task that does not exist.
  | discardTaskAttachment (participantId token attachmentId taskRequestId : String)
  -- Reads that rebuild the registry.
  | readCollab
  -- Closes that Cloudflare confirmed.
  | cleanup (results : List MediaCloseResult)
  -- The instance is evicted from memory.
  | restart

namespace RoomSession

variable (env : RoomEnv)

/-- Runs a handler on the active Room and stores what it saves. -/
def withRoom (s : RoomSession) (handle : RoomRecord → Option RoomRecord) : RoomSession :=
  match s.activeRoom env with
  | (none, s) => s
  | (some room, s) => s.store (handle room)

/-- Registers a participant, in a new Room if there is none. -/
def register (s : RoomSession) (request : Registration) (kind : RegistrationKind) :
    RoomSession :=
  match s.stored with
  | none =>
    s.resetCollabTracking.store
      ((kind.register env (RoomRecord.newRoom env) request).toOption.bind
        (RoomRecord.saveRoom env))
  | some _ =>
    s.withRoom env fun room =>
      (kind.register env room request).toOption.bind (RoomRecord.saveRoom env)

/-- Creates a Room with an Agent. -/
def agentCreateRoom (s : RoomSession) (request : Registration) : RoomSession :=
  match s.stored with
  | none =>
    s.store (((RoomRecord.newRoom env).registerAgent env request none).toOption.bind
      (RoomRecord.saveRoom env))
  | some _ => s.withRoom env fun _ => none

/-- Runs the ingestion of a collaboration envelope. -/
def runCollab (s : RoomSession) (op : CollabOp) : RoomSession :=
  match s.activeRoom env with
  | (none, s) => s
  | (some room, s) =>
    match op.envelope env room with
    | .error _ => s
    | .ok (room, envelope) => s.ingested room (envelope.ingest env room s.tracking)

/-- The attachment that a Human may discard. -/
def discardableAttachment (room : RoomRecord) (human : RoomParticipant)
    (attachmentId taskRequestId : String) : Option RoomAttachment :=
  (room.attachments.find? fun attachment => attachment.id = attachmentId).filter fun attachment =>
    attachment.senderId = human.id && attachment.taskRequestId = some taskRequestId &&
      attachment.taskWake = some false

/-- Discards an attachment unless the Task that it was staged for exists. -/
def discardTaskAttachment (s : RoomSession) (participantId token attachmentId taskRequestId :
    String) : RoomSession :=
  match s.activeRoom env with
  | (none, s) => s
  | (some room, s) =>
    match (room.findParticipant participantId token "").filter (·.kind = .human) with
    | none => s
    | some human =>
      match discardableAttachment room human attachmentId taskRequestId with
      | none => s
      | some _ =>
        let tracking := s.tracking.warm room
        let warmed := { s with tracking }
        if (tracking.collabRegistry.find taskRequestId).isSome then warmed
        else
          let discarded := { room with
            attachments := room.attachments.filter fun entry => entry.id ≠ attachmentId }
          warmed.store ((discarded.touch env human.id).saveRoom env)

/-- A read that rebuilds the registry. -/
def readCollab (s : RoomSession) : RoomSession :=
  match s.activeRoom env with
  | (none, s) => s
  | (some room, s) => { s with tracking := s.tracking.warm room }

/-- Takes confirmed closes out of the queue of the stored Room, expired or not. -/
def cleanup (s : RoomSession) (results : List MediaCloseResult) : RoomSession :=
  match s.stored with
  | none => s
  | some stored =>
    match loadRoom env stored with
    | none => s
    | some (room, stored) =>
      { s with stored := some stored }.store ((room.reconcileCleanup results).saveRoom env)

/-- One operation of the session. -/
def step (s : RoomSession) : SessionOp → RoomSession
  | .register request kind => s.register env request kind
  | .agentCreateRoom request => s.agentCreateRoom env request
  | .membership op => s.withRoom env fun room => (op.apply env room).bind (RoomRecord.saveRoom env)
  | .media op => s.withRoom env fun room => (op.apply env room).bind (RoomRecord.saveRoom env)
  | .conversation op => s.withRoom env fun room => op.run env room
  | .collab op => s.runCollab env op
  | .discardTaskAttachment participantId token attachmentId taskRequestId =>
    s.discardTaskAttachment env participantId token attachmentId taskRequestId
  | .readCollab => s.readCollab env
  | .cleanup results => s.cleanup env results
  | .restart => { s with tracking := {}, phantoms := [] }

end RoomSession

/-- The operations of a Room session from a session without a Room, in all environments. -/
def roomSessionSystem : TransitionSystem RoomSession (RoomEnv × SessionOp) where
  init s := s = {}
  step s label s' := s' = s.step label.1 label.2

lemma reachableWhen_step {guard : RoomSession → RoomEnv × SessionOp → Prop} {s : RoomSession}
    (hreach : roomSessionSystem.ReachableWhen guard s) {env : RoomEnv} {op : SessionOp}
    (hguard : guard s (env, op)) : roomSessionSystem.ReachableWhen guard (s.step env op) :=
  hreach.step hguard rfl

end Free4Chat
