import Free4Chat.Operation.Conversation

/-!
# Uploads

The two uploads. Each loads the Room, checks what the request headers say, reads the body, and
then saves the record that it loaded. What the first part decides is kept in a structure, so that
the second part can run on it after the body has been read.

* `RoomRecord.surfaceUploadStart` and `SurfaceUpload.finish`.
* `RoomRecord.attachmentUploadStart` and `AttachmentUpload.finish`.
-/

namespace Free4Chat

open JsString (nonempty?)

def MAX_ACTIVE_AGENT_SURFACES : ℕ := 3
def MIN_SURFACE_UPDATE_MS : ℕ := 2000
def MAX_AGENT_ATTACHMENTS : ℕ := 8
def MAX_FILE_NAME_LENGTH : ℕ := 256

/-- Number of chunks of a body. -/
def chunksOf (chunkSize byteLength : ℕ) : ℕ := (byteLength + chunkSize - 1) / chunkSize

/-! ## Surfaces -/

/-- A surface upload whose body is still to be read: the record it loaded, and the headers. -/
structure SurfaceUpload where
  room : RoomRecord
  agent : RoomParticipant
  mimeType : String
  declaredSize : ℕ

/-- Decides whether a surface is published. -/
def evaluateSurfacePublish (upload : SurfaceUpload) (byteLength now : ℕ) : Except String Unit :=
  let otherActiveSurfaces := (upload.room.participants.values.filter fun candidate =>
    candidate.kind = .agent && candidate.id ≠ upload.agent.id && candidate.surface.isSome).length
  if !isSurfaceMimeType upload.mimeType then .error "surface_mime_unsupported"
  else if byteLength = 0 then .error "surface_empty"
  else if MAX_SURFACE_BYTES < byteLength then .error "surface_too_large"
  else if 0 < upload.declaredSize ∧ upload.declaredSize ≠ byteLength then
    .error "surface_size_mismatch"
  else if upload.agent.surface.any fun surface => now < surface.updatedAt + MIN_SURFACE_UPDATE_MS
    then .error "surface_rate_limited"
  else if upload.agent.surface.isNone ∧ MAX_ACTIVE_AGENT_SURFACES ≤ otherActiveSurfaces then
    .error "surface_capacity_exceeded"
  else .ok ()

/-- The part of a surface upload before its body is read. -/
def RoomRecord.surfaceUploadStart (room : RoomRecord) (participantId token mimeType : String)
    (declaredSize : ℕ) : Except String SurfaceUpload := do
  let agent ← (room.findAgent participantId token).mapError fun error =>
    if error = "agent_only" then "surface_agent_only" else error
  return { room, agent, mimeType, declaredSize }

/-- The part of a surface upload after its body is read: the record to save. -/
def SurfaceUpload.finish (env : RoomEnv) (upload : SurfaceUpload) (snapshotId : String)
    (byteLength : ℕ) : Except String RoomRecord := do
  evaluateSurfacePublish upload byteLength env.now
  return upload.room.updateParticipant upload.agent.id (fun participant =>
    { participant with
      surface := some
        { snapshotId, mimeType := upload.mimeType, size := byteLength, updatedAt := env.now } })
    fun _ => rfl

/-! ## Attachments -/

/-- The headers of an attachment upload. -/
structure AttachmentHeaders where
  taskRequestId : Option String := none
  taskPending : Bool := false
  taskWake : Bool := false
  mimeType : String
  declaredSize : ℕ
  fileName : String
deriving DecidableEq

/-- An attachment upload whose body is still to be read: the record it loaded, and what the
headers decided. -/
structure AttachmentUpload where
  room : RoomRecord
  participant : RoomParticipant
  headers : AttachmentHeaders
  taskRequestId : Option String
  pendingTaskContext : Bool
  taskWake : Bool
deriving DecidableEq

/-- Whether a participant may attach into a Task. A Human may stage the context of a Task that
does not exist yet. -/
def RoomRecord.checkAttachmentTask (room : RoomRecord) (participant : RoomParticipant)
    (pendingTaskContext : Bool) (taskRequestId : String) : Except String Unit :=
  match resolveTaskRequest (buildTaskProjectionIndex room.messages room.participants)
      (.str taskRequestId) room.participants with
  | .error error => if pendingTaskContext then .ok () else .error error
  | .ok task =>
    if task.agentParticipantIds = [] then .error "task_target_not_in_room"
    else if participant.kind = .agent ∧ participant.id ∉ task.agentParticipantIds then
      .error "task_attachment_not_participant"
    else .ok ()

/-- The part of an attachment upload before its body is read. -/
def RoomRecord.attachmentUploadStart (room : RoomRecord) (participantId token : String)
    (headers : AttachmentHeaders) : Except String AttachmentUpload := do
  let participant ← Except.require (room.findParticipant participantId token "") "unauthorized"
  let taskRequestId := nonempty? (headers.taskRequestId.map JsString.trim)
  let pendingTaskContext := participant.kind = .human && headers.taskPending &&
    taskRequestId.any isRequestIdPattern
  Except.rejectWhen (headers.taskPending ∧ !pendingTaskContext) "invalid_task_request"
  taskRequestId.forM (room.checkAttachmentTask participant pendingTaskContext)
  Except.rejectWhen (pendingTaskContext ∧ MAX_AGENT_ATTACHMENTS ≤ room.attachments.length)
    "attachment_store_full"
  Except.rejectWhen (isAttachmentMimeType headers.mimeType = false) "unsupported_attachment_type"
  Except.rejectWhen (MAX_AGENT_ATTACHMENT_BYTES < headers.declaredSize) "attachment_too_large"
  return {
    room
    participant
    headers
    taskRequestId
    pendingTaskContext
    taskWake := taskRequestId.isSome && !pendingTaskContext && participant.kind = .human &&
      headers.taskWake }

lemma room_of_attachmentUploadStart {room : RoomRecord} {participantId token : String}
    {headers : AttachmentHeaders} {upload : AttachmentUpload}
    (h : room.attachmentUploadStart participantId token headers = .ok upload) :
    upload.room = room := by
  simp only [RoomRecord.attachmentUploadStart, Except.bind_eq_ok, Except.pure_eq_ok] at h
  obtain ⟨_, _, _, _, _, _, _, _, _, _, _, _, rfl⟩ := h
  rfl

/-- The name under which a file is stored. -/
def storedFileName (fileName : String) : String :=
  let name := JsString.slice (JsString.trim fileName) MAX_FILE_NAME_LENGTH
  if name = "" then "image" else name

/-- The attachment that an upload stores. -/
def AttachmentUpload.attachment (env : RoomEnv) (upload : AttachmentUpload) (id : String)
    (byteLength : ℕ) : RoomAttachment :=
  { id
    senderId := upload.participant.id
    senderName := upload.participant.name
    senderKind := upload.participant.kind
    mimeType := upload.headers.mimeType
    fileName := storedFileName upload.headers.fileName
    size := byteLength
    chunkCount := chunksOf ATTACHMENT_CHUNK_SIZE byteLength
    createdAt := env.now
    sequence := upload.room.nextMessageSequence + 1
    taskRequestId := upload.taskRequestId
    taskWake := upload.taskRequestId.map fun _ => upload.taskWake }

/-- The part of an attachment upload after its body is read: the record to save. The oldest
attachments are evicted from the bounded store. -/
def AttachmentUpload.finish (env : RoomEnv) (upload : AttachmentUpload) (id : String)
    (byteLength : ℕ) : Except String RoomRecord :=
  if byteLength = 0 ∨ MAX_AGENT_ATTACHMENT_BYTES < byteLength ∨
      (0 < upload.headers.declaredSize ∧ upload.headers.declaredSize ≠ byteLength) then
    .error "invalid_attachment"
  else if upload.pendingTaskContext ∧ MAX_AGENT_ATTACHMENTS ≤ upload.room.attachments.length then
    .error "attachment_store_full"
  else
    let attachment := upload.attachment env id byteLength
    let recorded :=
      { upload.room with
        nextMessageSequence := attachment.sequence
        attachments := takeLast MAX_AGENT_ATTACHMENTS
          (upload.room.attachments ++ [attachment]) }
    .ok (recorded.touch env upload.participant.id)

/-! ## Operations -/

/-- The operations on messages, permissions, surfaces and attachments. -/
inductive ConversationOp where
  | humanText (participantId token text : String) (targets taskRequestId : JsValue)
  | agentText (participantId token text : String) (targets taskRequestId : JsValue)
  | action (participantId token actionType : String)
  | sendPermission (participantId token : String) (request : JsValue)
  | permissionResponse (participantId token : String) (requestId selectedOptionId : JsValue)
  | surfaceUpload (participantId token mimeType : String) (declaredSize : ℕ)
    (snapshotId : String) (byteLength : ℕ)
  | attachmentUpload (participantId token : String) (headers : AttachmentHeaders) (id : String)
    (byteLength : ℕ)
  | clearSurface (participantId token : String)
  | attachDataTransport (participantId token sessionId : String) (ready : Bool)
  -- Any operation that, of the modelled record, only records that the participant was seen.
  | heartbeat (participantId token : String)

/-- The record that storage holds after an operation, if it saved one. -/
def ConversationOp.run (env : RoomEnv) (room : RoomRecord) : ConversationOp → Option RoomRecord
  | .humanText participantId token text targets taskRequestId => do
    let human ← (room.findHumanClient participantId token).toOption
    let room ← ((room.touch env human.id).appendHumanText env human text targets
      taskRequestId).toOption
    room.saveRoom env
  | .agentText participantId token text targets taskRequestId => do
    let room ← (room.agentSendText env participantId token text targets taskRequestId).toOption
    room.saveRoom env
  | .action participantId token actionType => do
    let human ← (room.findHumanClient participantId token).toOption
    let room ← ((room.touch env human.id).appendAction env human actionType).toOption
    room.saveRoom env
  | .sendPermission participantId token request =>
    (room.agentSendPermission env participantId token request).toOption.join
  | .permissionResponse participantId token requestId selectedOptionId => do
    let human ← (room.findHumanClient participantId token).toOption
    let room ← ((room.touch env human.id).permissionResponse env human requestId
      selectedOptionId).1
    room.saveRoom env
  | .surfaceUpload participantId token mimeType declaredSize snapshotId byteLength => do
    let upload ← (room.surfaceUploadStart participantId token mimeType declaredSize).toOption
    let room ← (upload.finish env snapshotId byteLength).toOption
    room.saveRoom env
  | .attachmentUpload participantId token headers id byteLength => do
    let upload ← (room.attachmentUploadStart participantId token headers).toOption
    let room ← (upload.finish env id byteLength).toOption
    room.saveRoom env
  | .clearSurface participantId token => do
    let agent ← (room.findAgent participantId token).toOption
    (room.updateParticipant agent.id (fun participant =>
      { participant with surface := none, lastSeenAt := env.now }) fun _ => rfl).saveRoom env
  | .attachDataTransport participantId token sessionId ready => do
    let agent ← (room.findAgent participantId token).toOption
    (room.updateParticipant agent.id (fun participant =>
      { participant with
        participantDataTransport := some { sessionId, ready }
        lastSeenAt := env.now }) fun _ => rfl).saveRoom env
  | .heartbeat participantId token => do
    let participant ← room.findParticipant participantId token ""
    (room.touch env participant.id).saveRoom env

end Free4Chat
