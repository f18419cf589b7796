import Free4Chat.Data.Chunked
import Free4Chat.Data.FaultyProgram
import Free4Chat.Session.Machine

/-!
# The Attachment Store

The bytes of an attachment are stored in chunks beside the Room record that lists the attachment.
Uploads and discards change both, one storage operation after the other, and any of these
operations may throw. An upload reads its body between loading the Room and storing the chunks;
other operations run in the meantime.

* `AttachmentStorage`: the stored Room record and the stored chunks.
* `RoomRecord.attachmentUploadStart` as `beginUpload`, and `AttachmentUpload.store`: an upload
  before and after its body is read.
* `discardTaskAttachment`: a discard.
* `attachmentSystem`: the runs of uploads, discards and other operations, with failures and with
  crashes after any storage operation.
-/

namespace Free4Chat

/-- The stored Room record and the stored chunks, by attachment id and index. -/
structure AttachmentStorage where
  room : Option RoomRecord := none
  chunk : String → ℕ → Option (List UInt8) := fun _ _ => none

/-- The operations of an upload, of a discard and of the expiry of a Room that may throw. -/
inductive AttachmentIO where
  | readRoom
  | repairRoom
  | deleteSurfaces
  | deleteAlarm
  | deleteAll
  | putChunk (index : ℕ)
  | deleteChunk (id : String) (index : ℕ)
  -- A deletion by the handler of a failed upload.
  | rollbackChunk (index : ℕ)
  | saveRoom
  | broadcast
  | scheduleNextAlarm
deriving DecidableEq

/-- Programs over the stored attachments. -/
abbrev AttachmentProgram := FaultyProgram AttachmentIO AttachmentStorage

namespace AttachmentStorage

/-- Stores a chunk. -/
def putChunk (storage : AttachmentStorage) (id : String) (index : ℕ) (bytes : List UInt8) :
    AttachmentStorage :=
  { storage with
    chunk := fun id' index' =>
      if id' = id ∧ index' = index then some bytes else storage.chunk id' index' }

/-- Deletes a chunk. -/
def deleteChunk (storage : AttachmentStorage) (id : String) (index : ℕ) : AttachmentStorage :=
  { storage with
    chunk := fun id' index' =>
      if id' = id ∧ index' = index then none else storage.chunk id' index' }

/-- The attachments that a load of the stored Room returns. -/
def listed (storage : AttachmentStorage) : List RoomAttachment :=
  match storage.room with
  | none => []
  | some room => room.attachments.filter validAttachment

/-- The bytes of a listed attachment. -/
def readAttachmentPayload (storage : AttachmentStorage) (attachmentId : String) :
    Option (RoomAttachment × List UInt8) := do
  let attachment ← storage.listed.find? fun candidate => candidate.id = attachmentId
  let chunks ← (List.range attachment.chunkCount).mapM (storage.chunk attachment.id)
  return (attachment, chunks.flatten)

@[simp]
lemma putChunk_chunk_self (storage : AttachmentStorage) (id : String) (index : ℕ)
    (bytes : List UInt8) : (storage.putChunk id index bytes).chunk id index = some bytes := by
  simp [putChunk]

lemma putChunk_chunk_of_ne (storage : AttachmentStorage) {id id' : String} (index : ℕ)
    (bytes : List UInt8) (h : id' ≠ id) :
    (storage.putChunk id index bytes).chunk id' = storage.chunk id' := by
  funext index'
  simp [putChunk, h]

lemma deleteChunk_chunk_of_ne (storage : AttachmentStorage) {id id' : String} (index : ℕ)
    (h : id' ≠ id) : (storage.deleteChunk id index).chunk id' = storage.chunk id' := by
  funext index'
  simp [deleteChunk, h]

end AttachmentStorage

/-! ## Programs -/

/-- Deletes the chunks of an attachment, under the names of the deletions. -/
def deleteAttachmentChunks (name : ℕ → AttachmentIO) (attachment : RoomAttachment) :
    AttachmentProgram Unit :=
  .forIndex attachment.chunkCount fun index =>
    .perform (name index) (·.deleteChunk attachment.id index)

/-- Deletes everything that is stored for an expired Room. -/
def deleteExpiredRoom (room : RoomRecord) : AttachmentProgram Unit := do
  .perform .deleteSurfaces id
  .forEach room.attachments fun attachment =>
    deleteAttachmentChunks (.deleteChunk attachment.id) attachment
  .perform .deleteAlarm id
  .perform .deleteAll fun _ => {}

/-- Writes the repaired record, if the load repaired it. -/
def writeRepaired (stored repaired : RoomRecord) : AttachmentProgram Unit :=
  if repaired = stored then pure ()
  else .perform .repairRoom fun storage => { storage with room := some repaired }

section Programs

variable (env : RoomEnv)

/-- Loads the Room. An expired one is deleted. -/
def loadActiveRoom : AttachmentProgram (Option RoomRecord) := do
  match ← .read .readRoom (·.room) with
  | none => pure none
  | some stored =>
    match loadRoom env stored with
    | none => .throw
    | some (room, repaired) => do
      writeRepaired stored repaired
      if room.isExpired env then do
        deleteExpiredRoom room
        pure none
      else pure (some room)

/-- Saves a record. The save throws when the record is rejected. -/
def saveRecord (room : RoomRecord) : AttachmentProgram Unit :=
  match room.saveRoom env with
  | none => .throw
  | some saved => .perform .saveRoom fun storage => { storage with room := some saved }

/-- What a request is answered. -/
inductive AttachmentAnswer where
  -- Not an answer yet: the upload waits for its body.
  | waiting (upload : AttachmentUpload)
  | stored (attachment : RoomAttachment)
  | refused (error : String)
  | done

/-- An upload up to the reading of its body. -/
def beginUpload (participantId token : String) (headers : AttachmentHeaders) :
    AttachmentProgram AttachmentAnswer := do
  match ← loadActiveRoom env with
  | none => pure (.refused "room_expired")
  | some room =>
    match room.attachmentUploadStart participantId token headers with
    | .error error => pure (.refused error)
    | .ok upload => pure (.waiting upload)

namespace AttachmentUpload

variable (upload : AttachmentUpload) (id : String) (byteLength : ℕ)

/-- Whether the body is not the one that the headers declare. -/
def invalidBody : Prop :=
  byteLength = 0 ∨ MAX_AGENT_ATTACHMENT_BYTES < byteLength ∨
    (0 < upload.headers.declaredSize ∧ upload.headers.declaredSize ≠ byteLength)

/-- Whether the upload may not evict and the store is full. -/
def storeFull : Prop :=
  upload.pendingTaskContext ∧ MAX_AGENT_ATTACHMENTS ≤ upload.room.attachments.length

instance : Decidable (upload.invalidBody byteLength) := by
  unfold invalidBody
  infer_instance

instance : Decidable upload.storeFull := by
  unfold storeFull
  infer_instance

/-- The attachments of the loaded Room followed by the uploaded one. -/
def appended : List RoomAttachment :=
  upload.room.attachments ++ [upload.attachment env id byteLength]

/-- The record that the upload saves: the oldest attachments are dropped from the bounded store. -/
def recorded : RoomRecord :=
  { upload.room with
    nextMessageSequence := upload.room.nextMessageSequence + 1
    attachments := takeLast MAX_AGENT_ATTACHMENTS (upload.appended env id byteLength) }.touch env
      upload.participant.id

/-- The attachments that the upload drops. -/
def evicted : List RoomAttachment :=
  (upload.appended env id byteLength).take
    ((upload.appended env id byteLength).length - MAX_AGENT_ATTACHMENTS)

/-- An upload from the reading of its body on. -/
def store (bytes : List UInt8) : AttachmentProgram AttachmentAnswer :=
  if upload.invalidBody bytes.length then pure (.refused "invalid_attachment")
  else
    let attachment := upload.attachment env id bytes.length
    .tryCatch
      (do
        .forIndex attachment.chunkCount fun index =>
          .perform (.putChunk index)
            (·.putChunk id index (Chunked.chunkAt ATTACHMENT_CHUNK_SIZE bytes index))
        if upload.storeFull then do
          deleteAttachmentChunks (.deleteChunk id) attachment
          pure (.refused "attachment_store_full")
        else do
          saveRecord env (upload.recorded env id bytes.length)
          .perform .broadcast fun storage => storage
          .forEach (upload.evicted env id bytes.length) fun oldAttachment =>
            deleteAttachmentChunks (.deleteChunk oldAttachment.id) oldAttachment
          .perform .scheduleNextAlarm fun storage => storage
          pure (.stored attachment))
      fun _ => do
        deleteAttachmentChunks .rollbackChunk attachment
        pure (.refused "attachment_unavailable")

end AttachmentUpload

/-- A Human discards an attachment that it staged, unless the registry tracks the Task. -/
def discardStagedAttachment (participantId token attachmentId taskRequestId : String)
    (registry : CollabRegistry) : AttachmentProgram AttachmentAnswer := do
  match ← loadActiveRoom env with
  | none => pure (.refused "room_expired")
  | some room =>
    match (room.findParticipant participantId token "").filter (·.kind = .human) with
    | none => pure (.refused "unauthorized")
    | some human =>
      match RoomSession.discardableAttachment room human attachmentId taskRequestId with
      | none => pure .done
      | some attachment =>
        if (registry.find taskRequestId).isSome then pure .done
        else do
          saveRecord env ({ room with
            attachments := room.attachments.filter fun entry => entry.id ≠ attachmentId }.touch env
              human.id)
          deleteAttachmentChunks (.deleteChunk attachment.id) attachment
          .perform .broadcast fun storage => storage
          .perform .scheduleNextAlarm fun storage => storage
          pure .done

end Programs

/-! ## Runs -/

/-- The stored attachments and the uploads that wait for their bodies. -/
structure AttachmentStore where
  storage : AttachmentStorage := {}
  uploads : List AttachmentUpload := []
  -- Specification field: the storage before and after each upload that was answered with an error.
  failures : List (AttachmentStorage × AttachmentStorage) := []

/-- The operations on the store. -/
inductive AttachmentOp where
  | beginUpload (participantId token : String) (headers : AttachmentHeaders)
  | finishUpload (upload : AttachmentUpload) (id : String) (bytes : List UInt8)
  | discard (participantId token attachmentId taskRequestId : String)
    (registry : CollabRegistry)
  -- Any other operation. It saves the attachments that it loaded.
  | save (room : RoomRecord)

/-- An operation in its environment, with the storage operations that throw. -/
structure AttachmentCall where
  env : RoomEnv
  op : AttachmentOp
  fails : AttachmentIO → Bool

/-- The program of an operation. -/
def AttachmentOp.program (env : RoomEnv) : AttachmentOp → AttachmentProgram AttachmentAnswer
  | .beginUpload participantId token headers =>
    Free4Chat.beginUpload env participantId token headers
  | .finishUpload upload id bytes => upload.store env id bytes
  | .discard participantId token attachmentId taskRequestId registry =>
    discardStagedAttachment env participantId token attachmentId taskRequestId registry
  | .save room => do
    saveRecord env room
    pure .done

/-- Whether an operation is an upload. -/
def AttachmentOp.isUpload : AttachmentOp → Bool
  | .beginUpload .. | .finishUpload .. => true
  | _ => false

/-- Whether the result of a request is an error: an error response or an exception. -/
def isFailedAnswer : Option AttachmentAnswer → Bool
  | none | some (.refused _) => true
  | _ => false

namespace AttachmentStore

variable (s : AttachmentStore)

/-- What an operation does to the storage. -/
def outcome (call : AttachmentCall) : FaultyOutcome AttachmentIO AttachmentStorage AttachmentAnswer :=
  call.op.program call.env call.fails s.storage

/-- When an operation may run. A body belongs to an upload that waits for it, and the id of the new
attachment is a fresh one. -/
def Enabled : AttachmentOp → Prop
  | .finishUpload upload id _ =>
    upload ∈ s.uploads ∧
      (∀ room, s.storage.room = some room → ∀ attachment ∈ room.attachments, attachment.id ≠ id) ∧
      ∀ attachment ∈ upload.room.attachments, attachment.id ≠ id
  | .save room => room.attachments = s.storage.listed
  | _ => True

/-- The uploads that wait for their bodies after an operation. -/
def uploadsAfter (op : AttachmentOp) (result : Option AttachmentAnswer) : List AttachmentUpload :=
  match op, result with
  | .finishUpload upload _ _, _ => s.uploads.erase upload
  | .beginUpload .., some (.waiting upload) => s.uploads ++ [upload]
  | _, _ => s.uploads

/-- The store after an operation. -/
def run (call : AttachmentCall) : AttachmentStore :=
  let outcome := s.outcome call
  { storage := outcome.state
    uploads := s.uploadsAfter call.op outcome.result
    failures :=
      if call.op.isUpload && isFailedAnswer outcome.result then
        s.failures ++ [(s.storage, outcome.state)]
      else s.failures }

end AttachmentStore

/-- What may happen to the store. -/
inductive AttachmentEvent where
  | run (call : AttachmentCall)
  -- The process ends during an operation and leaves one of the states in storage.
  | crash (call : AttachmentCall) (storage : AttachmentStorage)

/-- The operation of an event. -/
def AttachmentEvent.call : AttachmentEvent → AttachmentCall
  | .run call | .crash call _ => call

/-- The runs of the attachment store. -/
def attachmentSystem : TransitionSystem AttachmentStore AttachmentEvent where
  init s := s = {}
  step s event s' :=
    s.Enabled event.call.op ∧
      match event with
      | .run call => s' = s.run call
      | .crash call storage =>
        storage ∈ (s.outcome call).visited ∧ s' = { s with storage, uploads := [] }

end Free4Chat
