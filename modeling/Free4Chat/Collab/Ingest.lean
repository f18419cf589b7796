import Free4Chat.Collab.Registry
import Free4Chat.Operation.Upload

/-!
# Collaboration Ingestion

The two ingestion paths that Humans and Agents share, and the operations that lead to them. The
registry of a Durable Object instance is rebuilt on its first use; it is changed before the Room is
saved, and a save that fails leaves it changed.

* `CollabTracking`: the registry, and whether it has been rebuilt.
* `ingestCollabWorkRequest` and `ingestCollabResponse`: the shared paths.
* `RoomRecord.agentSendCollab`, `RoomRecord.humanCollabRequest` and the other operations.
-/

namespace Free4Chat

open JsString (nonempty?)

/-- The collaboration bookkeeping of a Durable Object instance. -/
structure CollabTracking where
  collabRegistry : CollabRegistry := {}
  collabRebuilt : Bool := false
deriving DecidableEq

/-- The bookkeeping once the registry has been rebuilt from the retained log. -/
def CollabTracking.warm (tracking : CollabTracking) (room : RoomRecord) : CollabTracking :=
  if tracking.collabRebuilt then tracking
  else
    { collabRegistry := tracking.collabRegistry.rebuild (collabEntries room.messages)
      collabRebuilt := true }

/-- How an ingestion ends. -/
inductive CollabIngest where
  | recorded (sequence : ℕ) (event : CollabEvent)
  | duplicate (sequence : ℕ) (event : CollabEvent)
  | rejected (error : String)
  -- The save was rejected.
  | failed
deriving DecidableEq

/-- What an ingestion leaves: its answer, the bookkeeping, and the record stored, if one is. -/
structure CollabIngestion where
  answer : CollabIngest
  tracking : CollabTracking
  saved : Option RoomRecord := none

/-- The message of a collaboration event. It addresses the target, unless that is the sender. -/
def collabMessage (sender : RoomParticipant) (event : CollabEvent) (createdAt : ℕ) :
    RoomMessage :=
  { peerId := sender.id
    name := sender.name
    kind := sender.kind
    type := .action
    actionType := some COLLAB_ACTION_TYPE
    collab := some event
    targets :=
      if event.targetParticipantId ≠ sender.id then some [event.targetParticipantId] else none
    createdAt
    sequence := 0 }

variable (env : RoomEnv)

/-- Appends an event and saves the Room, after the bookkeeping has been changed. -/
def appendCollabEvent (room : RoomRecord) (tracking : CollabTracking) (sender : RoomParticipant)
    (event : CollabEvent) : CollabIngestion :=
  let appended := room.appendMessage env (collabMessage sender event env.now)
  match appended.saveRoom env with
  | none => { answer := .failed, tracking }
  | some saved => { answer := .recorded (room.nextMessageSequence + 1) event, tracking,
                    saved := some saved }

/-- Ingests a work request. The callers leave the kind of the input out, or it is `request`. -/
def ingestCollabWorkRequest (room : RoomRecord) (tracking : CollabTracking)
    (sender : RoomParticipant) (input : JsValue) (generatedRequestId : String) :
    CollabIngestion :=
  let warmed := tracking.warm room
  match validateCollabEvent (.str "request") input sender.id room.participants room.attachments
      generatedRequestId with
  | .error error => { answer := .rejected error, tracking := warmed }
  | .ok event =>
    let outcome := warmed.collabRegistry.recordRequest event (room.nextMessageSequence + 1)
    let recorded := { warmed with collabRegistry := outcome.2 }
    match outcome.1 with
    | .duplicate sequence => { answer := .duplicate sequence event, tracking := recorded }
    | _ => appendCollabEvent env room recorded sender event

/-- Ingests a response or a result. Its endpoints come from the tracked request. -/
def ingestCollabResponse (room : RoomRecord) (tracking : CollabTracking)
    (responder : RoomParticipant) (input : JsValue) (generatedRequestId : String) :
    CollabIngestion :=
  let warmed := tracking.warm room
  match validateCollabEvent (input.get "kind") input responder.id room.participants
      room.attachments generatedRequestId with
  | .error error => { answer := .rejected error, tracking := warmed }
  | .ok event =>
    match warmed.collabRegistry.precheckResponse event.requestId event.kind responder.id with
    | .rejected error => { answer := .rejected error, tracking := warmed }
    | .duplicate sequence => { answer := .duplicate sequence event, tracking := warmed }
    | .record =>
      match warmed.collabRegistry.routingFor event.requestId responder.id with
      | none => { answer := .rejected "unknown_request", tracking := warmed }
      | some (fromParticipantId, targetParticipantId) =>
        let registry := warmed.collabRegistry.commitResponse event.requestId event.kind
          (room.nextMessageSequence + 1)
        appendCollabEvent env room { warmed with collabRegistry := registry } responder
          { event with fromParticipantId, targetParticipantId }

/-! ## Operations -/

/-- An envelope with the participant that sends it. -/
inductive CollabEnvelope where
  | request (sender : RoomParticipant) (input : JsValue) (generatedRequestId : String)
  | response (responder : RoomParticipant) (input : JsValue) (generatedRequestId : String)

/-- The ingestion of an envelope. -/
def CollabEnvelope.ingest (room : RoomRecord) (tracking : CollabTracking) :
    CollabEnvelope → CollabIngestion
  | .request sender input generatedRequestId =>
    ingestCollabWorkRequest env room tracking sender input generatedRequestId
  | .response responder input generatedRequestId =>
    ingestCollabResponse env room tracking responder input generatedRequestId

/-- The attachments that a Human may refer to in its own request. -/
def humanTaskContextReferenceIds (room : RoomRecord) (human : RoomParticipant) (raw : JsValue) :
    Except String JsValue :=
  match raw with
  | .undefined => .ok .undefined
  | value =>
    match value.asStringArray? with
    | none => .error "invalid_attachment_refs"
    | some ids =>
      if MAX_COLLAB_ATTACHMENT_REFS < ids.distinct.length then .error "too_many_attachment_refs"
      else if ids.distinct.any fun id =>
          !(room.attachments.find? fun attachment => attachment.id = id).any fun attachment =>
            attachment.senderId = human.id then .error "unknown_attachment"
      else if ids.distinct = [] then .ok .undefined
      else .ok (.arr (ids.distinct.map .str))

/-- The request id that a Human pins, if it pins one. -/
def pinnedRequestId (raw : JsValue) : Except String JsValue :=
  match raw with
  | .undefined => .ok .undefined
  | value =>
    match (value.asString?.map JsString.trim).filter isRequestIdPattern with
    | none => .error "invalid_request_id"
    | some id => .ok (.str id)

/-- The operations of Humans and Agents that send a collaboration envelope. -/
inductive CollabOp where
  -- An Agent sends a request, a response or a result.
  | agentSend (participantId token : String) (event : JsValue) (generatedRequestId : String)
  -- A Human starts a Task with an Agent.
  | humanRequest (participantId token : String)
    (targetParticipantId requestId summary attachmentIds : JsValue) (generatedRequestId : String)
  -- A Human accepts or declines a request.
  | humanResponse (participantId token : String) (decision requestId summary : JsValue)
  -- A Human reports the result of a request.
  | humanResult (participantId token : String) (status requestId summary : JsValue)
  -- A prepared session continues as a Task of the Human who asked for it.
  | sessionContinue (humanParticipantId taskRequestId targetAgentId summary : String)
    (attachmentIds : Option (List String))

/-- The envelope of an Agent, and the record with which it is ingested. -/
def agentSendCollab (room : RoomRecord) (participantId token : String) (event : JsValue)
    (generatedRequestId : String) : Except String (RoomRecord × CollabEnvelope) := do
  let agent ← room.findAgent participantId token
  return (room.touch env agent.id,
    match event.get "kind" with
    | .str "request" => .request agent event generatedRequestId
    | _ => .response agent event generatedRequestId)

/-- The envelope of a Human's request. -/
def humanCollabRequest (room : RoomRecord) (participantId token : String)
    (targetParticipantId requestId summary attachmentIds : JsValue)
    (generatedRequestId : String) : Except String (RoomRecord × CollabEnvelope) := do
  let human ← room.findHumanClient participantId token
  let room := room.touch env human.id
  let targetId := trimmedString targetParticipantId
  let target ← Except.require ((room.participants.get? targetId).filter (·.connected))
    "target_not_in_room"
  Except.rejectWhen (target.kind ≠ .agent) "target_not_agent"
  let references ← humanTaskContextReferenceIds room human attachmentIds
  let requestId ← pinnedRequestId requestId
  return (room, .request human
    (.obj [("targetParticipantId", .str targetId), ("summary", summary),
      ("requestId", requestId), ("attachmentIds", references)]) generatedRequestId)

/-- The envelope of a Human's decision on a request. -/
def humanCollabResponse (room : RoomRecord) (participantId token : String)
    (decision requestId summary : JsValue) : Except String (RoomRecord × CollabEnvelope) := do
  let human ← room.findHumanClient participantId token
  Except.rejectWhen (parseCollabKind decision ∉ [some .accepted, some .declined])
    "invalid_collab_kind"
  return (room.touch env human.id, .response human
    (.obj [("kind", decision), ("requestId", requestId), ("summary", summary)]) "")

/-- The envelope of a Human's result of a request. -/
def humanCollabResult (room : RoomRecord) (participantId token : String)
    (status requestId summary : JsValue) : Except String (RoomRecord × CollabEnvelope) := do
  let human ← room.findHumanClient participantId token
  Except.rejectWhen (parseCollabKind status ∉ [some .completed, some .failed])
    "invalid_collab_kind"
  let summary := trimmedString summary
  Except.rejectWhen (summary = "") "summary_required"
  Except.rejectWhen (MAX_COLLAB_SUMMARY_LENGTH < JsString.utf16Length summary) "summary_too_long"
  return (room.touch env human.id, .response human
    (.obj [("kind", status), ("requestId", requestId), ("summary", .str summary)]) "")

/-- The envelope of the Task as which a prepared session continues. -/
def handleAgentSessionResult (room : RoomRecord)
    (humanParticipantId taskRequestId targetAgentId summary : String)
    (attachmentIds : Option (List String)) : Except String (RoomRecord × CollabEnvelope) := do
  let human ← Except.require
    ((room.participants.get? humanParticipantId).filter (·.kind = .human))
    "task_session_not_pending"
  return (room, .request human
    (.obj [("requestId", .str taskRequestId),
      ("targetParticipantId", .str targetAgentId), ("summary", .str summary),
      ("attachmentIds", match attachmentIds with
        | none => .undefined
        | some ids => .arr (ids.map .str))]) taskRequestId)

/-- The envelope that an operation sends, and the record with which it is ingested. -/
def CollabOp.envelope (op : CollabOp) (room : RoomRecord) :
    Except String (RoomRecord × CollabEnvelope) :=
  match op with
  | .agentSend participantId token event generatedRequestId =>
    agentSendCollab env room participantId token event generatedRequestId
  | .humanRequest participantId token target requestId summary attachmentIds generatedRequestId =>
    humanCollabRequest env room participantId token target requestId summary attachmentIds
      generatedRequestId
  | .humanResponse participantId token decision requestId summary =>
    humanCollabResponse env room participantId token decision requestId summary
  | .humanResult participantId token status requestId summary =>
    humanCollabResult env room participantId token status requestId summary
  | .sessionContinue human taskRequestId target summary attachmentIds =>
    handleAgentSessionResult room human taskRequestId target summary attachmentIds

end Free4Chat
