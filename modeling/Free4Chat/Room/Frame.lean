import Free4Chat.Room.MessageLog

/-!
# Frames

The record of a Room has two halves that most operations change separately: the conversation, and
the presence of participants, hosts, media and grants. Each primitive update leaves one half alone.

* `RoomRecord.conversation` and `RoomRecord.presence`: the two halves.
* `LogExtends.of_conversation`: leaving the conversation alone extends the log by nothing.
-/

namespace Free4Chat

/-- The conversation of a Room. -/
structure Conversation where
  messages : List RoomMessage
  history : List RoomMessage
  nextMessageSequence : ℕ
  permissionRequests : KeyedMap PermissionRequestRecord
  admittedPermissions : List String
  attachments : List RoomAttachment

/-- The presence in a Room. -/
structure Presence where
  participants : Participants
  runtimeHosts : RuntimeHostMap
  liveTranscript : LiveTranscriptState
  nextLiveTranscriptEpoch : ℕ
  meetingNotes : MeetingNotesState
  agentVoice : AgentVoiceState
  pendingMediaCleanup : List PendingMediaCleanup

namespace RoomRecord

variable (env : RoomEnv) (room : RoomRecord)

/-- The conversation half of a record. -/
def conversation : Conversation :=
  { messages := room.messages
    history := room.history
    nextMessageSequence := room.nextMessageSequence
    permissionRequests := room.permissionRequests
    admittedPermissions := room.admittedPermissions
    attachments := room.attachments }

/-- The presence half of a record. -/
def presence : Presence :=
  { participants := room.participants
    runtimeHosts := room.runtimeHosts
    liveTranscript := room.liveTranscript
    nextLiveTranscriptEpoch := room.nextLiveTranscriptEpoch
    meetingNotes := room.meetingNotes
    agentVoice := room.agentVoice
    pendingMediaCleanup := room.pendingMediaCleanup }

/-! ## Updates of the presence -/

@[simp]
lemma conversation_updateParticipant (participantId : String)
    (f : RoomParticipant → RoomParticipant) (hf) :
    (room.updateParticipant participantId f hf).conversation = room.conversation := rfl

@[simp]
lemma conversation_touch (participantId : String) :
    (room.touch env participantId).conversation = room.conversation := rfl

@[simp]
lemma conversation_updateMedia (participantId : String) (f : RoomMediaState → RoomMediaState) :
    (room.updateMedia participantId f).conversation = room.conversation := rfl

@[simp]
lemma conversation_removeParticipant (participantId : String) :
    (room.removeParticipant participantId).conversation = room.conversation := rfl

@[simp]
lemma conversation_clearAgentVoiceReadiness :
    room.clearAgentVoiceReadiness.conversation = room.conversation := rfl

@[simp]
lemma conversation_setDepartureGrants (before : RoomRecord) (participant : RoomParticipant) :
    (room.setDepartureGrants before participant).conversation = room.conversation := rfl

@[simp]
lemma conversation_applyEmptyRoomExpiry :
    (room.applyEmptyRoomExpiry env).conversation = room.conversation := rfl

@[simp]
lemma conversation_reconcileCleanup (results : List MediaCloseResult) :
    (room.reconcileCleanup results).conversation = room.conversation := rfl

@[simp]
lemma conversation_stageLiveTranscriptMediaRevocation :
    room.stageLiveTranscriptMediaRevocation.conversation = room.conversation := rfl

@[simp]
lemma conversation_stageAgentMediaRevocation (agentParticipantId : String)
    (direction : AgentMediaRevocationDirection) :
    (room.stageAgentMediaRevocation agentParticipantId direction).conversation =
      room.conversation := by
  unfold stageAgentMediaRevocation
  split <;> rfl

@[simp]
lemma conversation_stageProducerSubscription (participant : RoomParticipant) :
    (room.stageProducerSubscription participant).conversation = room.conversation := by
  unfold stageProducerSubscription
  split
  · rfl
  · split
    · simp
    · rfl

@[simp]
lemma conversation_stageMediaGrantRevocation (revocation : AgentMediaRevocationIntent) :
    (room.stageMediaGrantRevocation env revocation).conversation = room.conversation := by
  simp only [stageMediaGrantRevocation]
  split
  · split
    · simp
    · rfl
  · simp

@[simp]
lemma conversation_stageMediaGrantRevocations (revocations : List AgentMediaRevocationIntent) :
    (room.stageMediaGrantRevocations env revocations).conversation = room.conversation := by
  induction revocations generalizing room with
  | nil => rfl
  | cons revocation revocations ih =>
    exact (ih _).trans (room.conversation_stageMediaGrantRevocation env revocation)

@[simp]
lemma conversation_stageDeparture (participant : RoomParticipant) :
    (room.stageDeparture env participant).conversation = room.conversation :=
  conversation_stageMediaGrantRevocations env room _

@[simp]
lemma conversation_stageExpired (participant : RoomParticipant) :
    (room.stageExpired env participant).conversation = room.conversation := by
  unfold stageExpired
  split <;> simp

@[simp]
lemma conversation_normalizeLiveTranscriptForRoom :
    (room.normalizeLiveTranscriptForRoom env).conversation = room.conversation := by
  simp only [normalizeLiveTranscriptForRoom]
  split <;> rfl

@[simp]
lemma conversation_garbageCollectRuntimeHostAuthorization :
    (room.garbageCollectRuntimeHostAuthorization env).conversation = room.conversation :=
  conversation_normalizeLiveTranscriptForRoom env _

/-! ## Updates of the conversation -/

@[simp]
lemma presence_appendMessage (message : RoomMessage) :
    (room.appendMessage env message).presence = room.presence := by
  obtain ⟨messages, -, -, heq⟩ := room.appendMessage_eq env message
  rw [heq]
  rfl

end RoomRecord

lemma LogExtends.of_conversation {room room' : RoomRecord}
    (h : room'.conversation = room.conversation) : LogExtends room room' [] :=
  LogExtends.of_eq (congrArg Conversation.messages h) (congrArg Conversation.history h)
    (congrArg Conversation.nextMessageSequence h)

end Free4Chat
