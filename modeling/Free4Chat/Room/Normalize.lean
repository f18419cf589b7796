import Free4Chat.Room.Staging

/-!
# Loading a Room

A stored Room is normalized on every load: malformed or obsolete parts are repaired, grants that
are no longer valid are dropped, and a live transcript whose producer is gone is stopped. A
repaired record is saved before it is returned.

* `normalizeRoom`: the repaired record, and whether anything was repaired.
* `loadRoom`: the record that a load returns, and the record that storage holds afterwards.
-/

namespace Free4Chat

open JsString (nonempty?)

/-- Number of subscription handles that an Agent may hold. -/
def MAX_AGENT_SUBSCRIBED_MIDS : ℕ := 64

/-- Number of participants that a message may address. -/
def MAX_TARGETS : ℕ := 8

/-- Number of permission requests that may be pending. -/
def MAX_PENDING_PERMISSION_REQUESTS : ℕ := 32

/-- Largest attachment in bytes. -/
def MAX_AGENT_ATTACHMENT_BYTES : ℕ := 768 * 1024

/-- Size of one storage chunk of an attachment. -/
def ATTACHMENT_CHUNK_SIZE : ℕ := 64 * 1024

/-- The last entries of a list. -/
def takeLast {α : Type} (n : ℕ) (l : List α) : List α := l.drop (l.length - n)

/-! ## The parts of a record -/

/-- The valid subscription handles among the stored ones. -/
def validSubscribedMids (mids : List String) : List String :=
  takeLast MAX_AGENT_SUBSCRIBED_MIDS (mids.filter (· ≠ ""))

/-- An Agent's media with invalid subscription handles dropped. -/
def normalizeSubscribedMids (media : RoomMediaState) : RoomMediaState :=
  match media.agentSubscribedMids with
  | none => media
  | some mids =>
    if (validSubscribedMids mids).length = mids.length then media
    else { media with agentSubscribedMids := some (validSubscribedMids mids) }

/-- Largest surface in bytes. -/
def MAX_SURFACE_BYTES : ℕ := 768 * 1024

/-- The accepted surface formats. -/
def isSurfaceMimeType (mimeType : String) : Bool :=
  mimeType ∈ ["image/jpeg", "image/png", "image/webp"]

/-- Whether a stored surface is well formed. -/
def isValidSurface (surface : RoomSurfaceV1) : Bool :=
  surface.snapshotId ≠ "" && JsString.utf16Length surface.snapshotId ≤ 64 &&
    isSurfaceMimeType surface.mimeType && 0 < surface.size && surface.size ≤ MAX_SURFACE_BYTES &&
    0 < surface.updatedAt

/-- A participant with an invalid surface and invalid media dropped. -/
def normalizeParticipant (participant : RoomParticipant) : RoomParticipant :=
  if participant.kind = .agent then
    { participant with
      surface := participant.surface.filter isValidSurface
      media := participant.media.map normalizeSubscribedMids }
  else participant

/-- One message with a valid sequence number and bounded targets. -/
def normalizeMessage (nextMessageSequence : ℕ) (message : RoomMessage) : RoomMessage :=
  let sequence := if 0 < message.sequence then message.sequence else nextMessageSequence + 1
  let targets := message.targets.map fun targets => targets.distinct.take MAX_TARGETS
  { message with
    sequence
    targets := if (targets.getD []).isEmpty then message.targets else targets }

/-- The messages with valid sequence numbers, and the last sequence number allocated. -/
def normalizeMessages : ℕ → List RoomMessage → List RoomMessage × ℕ
  | nextMessageSequence, [] => ([], nextMessageSequence)
  | nextMessageSequence, message :: messages =>
    let normalized := normalizeMessage nextMessageSequence message
    let rest := normalizeMessages (max nextMessageSequence normalized.sequence) messages
    (normalized :: rest.1, rest.2)

/-- The pattern `^[A-Za-z0-9](?:[A-Za-z0-9._:-]{3,63})$` of request ids. -/
def isRequestIdPattern (requestId : String) : Bool :=
  match requestId.toList with
  | [] => false
  | c :: cs => c.isAlphanum && cs.all JsString.isTokenChar && 3 ≤ cs.length && cs.length ≤ 63

/-- Whether a stored permission request is well formed and its Agent is in the Room. -/
def isValidPermissionRecord (participants : Participants) (record : PermissionRequestRecord) :
    Bool :=
  ((participants.get? record.agentParticipantId).any (·.kind = .agent)) &&
    0 < record.sequence &&
    (match record.event.kind with
      | .request .. => true
      | _ => false) &&
    record.event.requestId = record.requestId &&
    record.event.agentParticipantId = record.agentParticipantId &&
    (record.taskRequestId.all isRequestIdPattern)

/-- The last entries of a keyed map. -/
def lastEntries {V : Type} [Keyed V String] (n : ℕ) (m : KeyedMap V) : KeyedMap V :=
  ⟨takeLast n m.values, m.nodup.sublist (List.Sublist.map _ (List.drop_sublist _ _))⟩

/-- The pending permission requests that are well formed. A request whose Agent is gone is
dropped. -/
def normalizePermissionRequests (participants : Participants)
    (permissionRequests : KeyedMap PermissionRequestRecord) : KeyedMap PermissionRequestRecord :=
  (lastEntries MAX_PENDING_PERMISSION_REQUESTS permissionRequests).filter
    (isValidPermissionRecord participants)

/-- The accepted attachment formats. -/
def isAttachmentMimeType (mimeType : String) : Bool :=
  mimeType ∈ ["image/jpeg", "image/png", "image/webp", "text/plain", "text/markdown", "text/csv",
    "application/json", "text/yaml"]

/-- Whether a stored attachment is well formed. -/
def validAttachment (attachment : RoomAttachment) : Bool :=
  isAttachmentMimeType attachment.mimeType && 0 < attachment.size &&
    attachment.size ≤ MAX_AGENT_ATTACHMENT_BYTES && 0 < attachment.chunkCount &&
    attachment.chunkCount ≤
      (MAX_AGENT_ATTACHMENT_BYTES + ATTACHMENT_CHUNK_SIZE - 1) / ATTACHMENT_CHUNK_SIZE &&
    attachment.taskRequestId.all fun id => id ≠ "" && JsString.utf16Length id ≤ 64

/-- Whether a stored queue of pending closes is well formed. -/
def validPendingMediaCleanup (pending : List PendingMediaCleanup) : Bool :=
  pending.all fun entry => entry.sessionId ≠ "" && entry.mids.all (· ≠ "")

/-- A participant without its reference to a Runtime Host, if the reference dangles. -/
def dropDanglingHost (runtimeHosts : RuntimeHostMap) (participant : RoomParticipant) :
    RoomParticipant :=
  if hasDanglingHost runtimeHosts participant then { participant with runtimeHostId := none }
  else participant

/-- A participant whose outbound media is dropped unless it is an authorized publication. -/
def normalizeVoiceMedia (agentVoice : AgentVoiceState) (participant : RoomParticipant) :
    RoomParticipant :=
  if participant.kind = .agent then
    { participant with
      media := participant.media.map fun media =>
        (normalizeAgentVoiceParticipantMedia media agentVoice participant.id).1 }
  else participant

/-! ## The whole record -/

/-- The repaired record. -/
def normalizeRoom (env : RoomEnv) (stored : RoomRecord) : RoomRecord :=
  let participants := stored.participants.map normalizeParticipant fun participant => by
    simp only [normalizeParticipant, RoomParticipant.key_eq]; split <;> rfl
  let messages := normalizeMessages stored.nextMessageSequence stored.messages
  let permissionRequests := normalizePermissionRequests participants stored.permissionRequests
  let runtimeHosts := sanitizeStoredRuntimeHosts stored.runtimeHosts
  let participants := participants.map (dropDanglingHost runtimeHosts) fun participant => by
    simp only [dropDanglingHost, RoomParticipant.key_eq]; split <;> rfl
  let storedTranscript := normalizeStoredLiveTranscript stored.liveTranscript
    stored.nextLiveTranscriptEpoch
  let producer := normalizeLiveTranscriptProducer storedTranscript.1 participants runtimeHosts
    env.agentMediaEnabled
  let pending :=
    if validPendingMediaCleanup stored.pendingMediaCleanup then stored.pendingMediaCleanup
    else []
  let meetingNotes := (normalizeMeetingNotesGrant stored.meetingNotes participants).1
  let agentVoice := (normalizeAgentVoiceGrants stored.agentVoice participants runtimeHosts).1
  -- The subscriptions of a transcript that is stopped here are staged while its host is known.
  let staged :=
    if producer.2 then
      stageParticipants (isRevokedProducer meetingNotes storedTranscript.1) .subscribed
        participants pending
    else (participants, pending)
  let participants := staged.1.map (normalizeVoiceMedia agentVoice) fun participant => by
    simp only [normalizeVoiceMedia, RoomParticipant.key_eq]; split <;> rfl
  { stored with
    participants
    runtimeHosts
    messages := messages.1
    permissionRequests
    liveTranscript := producer.1
    nextLiveTranscriptEpoch := storedTranscript.2.1
    attachments := stored.attachments.filter validAttachment
    nextMessageSequence := messages.2
    meetingNotes
    agentVoice
    pendingMediaCleanup := staged.2 }

/-- Whether a load repairs anything that it must save. Malformed attachments are dropped without
asking for a save. -/
def needsRepair (env : RoomEnv) (stored : RoomRecord) : Bool :=
  { normalizeRoom env stored with attachments := stored.attachments } ≠ stored

/-- The record that a load returns and the record that storage holds afterwards. A repair that is
over budget is kept in memory only; one that storage refuses fails the load. -/
def loadRoom (env : RoomEnv) (stored : RoomRecord) : Option (RoomRecord × RoomRecord) :=
  let room := normalizeRoom env stored
  if needsRepair env stored then
    let room := room.trimRoomMessagesToBudget env
    if room.fitsBudget env then
      if env.storageAccepts then some (room, room) else none
    else some (room, stored)
  else some (room, stored)

end Free4Chat
