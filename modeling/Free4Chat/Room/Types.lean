import Free4Chat.Data.KeyedMap

/-!
# The Room Data Model

The records of a Room as the Durable Object persists them. A field that the source marks optional
is an `Option` whose default is `none`. Timestamps are milliseconds.

* `RoomParticipant` and `RoomMediaState`: who is in the Room and what media they carry.
* `RoomMessage`, `CollabEvent` and `PermissionEvent`: the canonical message log.
* `MeetingNotesState`, `LiveTranscriptState` and `AgentVoiceState`: the media grants.
* `RoomRecord`: the persisted Room.
-/

namespace Free4Chat

/-- Humans and Agents take part in a Room. -/
inductive ParticipantKind where
  | human
  | agent
deriving DecidableEq, Repr, Inhabited

/-! ## Participants and their media -/

/-- The kinds of published media track. -/
inductive RoomMediaTrackKind where
  | audio
  | video
deriving DecidableEq, Repr, Inhabited

/-- One published media track. -/
structure RoomMediaTrack where
  trackName : String
  kind : RoomMediaTrackKind
  mid : Option String := none
deriving DecidableEq, Repr, Inhabited

/-- The media a participant carries on one Cloudflare session. -/
structure RoomMediaState where
  sessionId : String
  muted : Bool := false
  fileChannelReady : Bool := false
  appDataChannelReady : Option Bool := none
  tracks : List RoomMediaTrack := []
  -- Handles of the Agent's subscriptions to Human audio, and of its one published voice track.
  agentSubscribedMids : Option (List String) := none
  agentPublishedMid : Option String := none
  -- Kept while the voice track is published but not yet announced in `tracks`.
  agentPublishedTrackName : Option String := none
  agentVoiceReady : Option Bool := none
deriving DecidableEq, Repr, Inhabited

/-- Speech readiness of a Runtime Host. -/
structure RuntimeHostSpeech where
  stt : Bool
  tts : Bool
deriving DecidableEq, Repr, Inhabited

/-- The readiness projection of one Runtime Host, shared by all Agents of that host. -/
structure RuntimeHostProjection where
  runtimeHostId : String
  speech : RuntimeHostSpeech
deriving DecidableEq, Repr, Inhabited

instance : Keyed RuntimeHostProjection String where
  key := RuntimeHostProjection.runtimeHostId

@[simp]
lemma RuntimeHostProjection.key_eq (host : RuntimeHostProjection) :
    Keyed.key host = host.runtimeHostId := rfl

/-- Metadata of an Agent's published workspace snapshot. -/
structure RoomSurfaceV1 where
  snapshotId : String
  mimeType : String
  size : ℕ
  updatedAt : ℕ
deriving DecidableEq, Repr, Inhabited

/-- The App DataChannel session of an Agent's Runtime. -/
structure ParticipantDataTransport where
  sessionId : String
  ready : Bool
deriving DecidableEq, Repr, Inhabited

/-- A participant of a Room. -/
structure RoomParticipant where
  id : String
  name : String
  kind : ParticipantKind
  connected : Bool
  joinedAt : ℕ
  lastSeenAt : ℕ
  connectionNonce : Option String := none
  token : String
  surface : Option RoomSurfaceV1 := none
  runtimeHostId : Option String := none
  media : Option RoomMediaState := none
  participantDataTransport : Option ParticipantDataTransport := none
deriving DecidableEq, Repr, Inhabited

instance : Keyed RoomParticipant String where
  key := RoomParticipant.id

@[simp]
lemma RoomParticipant.key_eq (participant : RoomParticipant) :
    Keyed.key participant = participant.id := rfl

/-- The participants of a Room, by id. -/
abbrev Participants := KeyedMap RoomParticipant

/-- The Runtime Hosts of a Room, by id. -/
abbrev RuntimeHostMap := KeyedMap RuntimeHostProjection

/-! ## Messages -/

/-- The steps of a collaboration: `request`, then `accepted` or `declined`, then `completed` or
`failed`. -/
inductive CollabEventKind where
  | request
  | accepted
  | declined
  | completed
  | failed
deriving DecidableEq, Repr, Inhabited

/-- A collaboration envelope. -/
structure CollabEvent where
  requestId : String
  kind : CollabEventKind
  fromParticipantId : String
  targetParticipantId : String
  summary : Option String := none
  details : Option (List (String × String)) := none
  attachmentIds : Option (List String) := none
deriving DecidableEq, Repr, Inhabited

/-- The presentation of the tool call a permission is asked for. -/
structure PermissionToolCall where
  title : String
  kind : Option String := none
  summary : Option String := none
  details : Option (List (String × String)) := none
deriving DecidableEq, Repr, Inhabited

/-- One option of a permission request. -/
structure PermissionOption where
  optionId : String
  name : String
  kind : Option String := none
deriving DecidableEq, Repr, Inhabited

/-- What a permission event says about its request: that it was asked, which option a Human
chose, or that it expired. -/
inductive PermissionEventBody where
  | request (toolCall : PermissionToolCall) (options : List PermissionOption)
  | resolved (selectedOptionId humanParticipantId humanName : String)
  | expired
deriving DecidableEq, Repr, Inhabited

/-- A permission event: the fields shared by its kinds, and the fields of its kind. -/
structure PermissionEvent where
  requestId : String
  agentParticipantId : String
  createdAt : ℕ
  expiresAt : ℕ
  kind : PermissionEventBody
deriving DecidableEq, Repr, Inhabited

/-- Whether a permission event closes its request. -/
def PermissionEvent.isTerminal (event : PermissionEvent) : Bool :=
  match event.kind with
  | .request .. => false
  | .resolved .. => true
  | .expired => true

/-- A permission request that is still pending. -/
structure PermissionRequestRecord where
  requestId : String
  agentParticipantId : String
  taskRequestId : Option String := none
  sequence : ℕ
  event : PermissionEvent
deriving DecidableEq, Repr, Inhabited

instance : Keyed PermissionRequestRecord String where
  key := PermissionRequestRecord.requestId

/-- Text and action messages. -/
inductive RoomMessageType where
  | text
  | action
deriving DecidableEq, Repr, Inhabited

/-- A message of the canonical Room log. -/
structure RoomMessage where
  peerId : String
  name : String
  -- Kind of the sender when it sent the message.
  kind : ParticipantKind
  type : RoomMessageType
  text : Option String := none
  actionType : Option String := none
  collab : Option CollabEvent := none
  permission : Option PermissionEvent := none
  -- Validated correlation to a retained collaboration request.
  taskRequestId : Option String := none
  targets : Option (List String) := none
  createdAt : ℕ
  sequence : ℕ
deriving DecidableEq, Repr, Inhabited

/-- Metadata of a Room attachment. -/
structure RoomAttachment where
  id : String
  senderId : String
  senderName : String
  senderKind : ParticipantKind
  mimeType : String
  fileName : String
  size : ℕ
  chunkCount : ℕ
  createdAt : ℕ
  sequence : ℕ
  taskRequestId : Option String := none
  -- Whether a Human attachment addresses the Agents of its Task by itself.
  taskWake : Option Bool := none
deriving DecidableEq, Repr, Inhabited

/-! ## Media grants -/

/-- The Room-wide grant to listen to Human audio for Meeting Notes. -/
structure MeetingNotesState where
  active : Bool
  agentParticipantId : Option String := none
  startedAt : Option ℕ := none
deriving DecidableEq, Repr, Inhabited

/-- The Room-wide live transcript, produced by one Runtime Host. -/
inductive LiveTranscriptState where
  | inactive
  | active (producerRuntimeHostId : String) (epoch startedAt : ℕ)
deriving DecidableEq, Repr, Inhabited

/-- An Agent's authorization to publish voice. It exists only while enabled. -/
structure AgentVoiceGrant where
  enabledAt : ℕ
deriving DecidableEq, Repr, Inhabited

/-- The voice grants of a Room, by Agent participant id. -/
abbrev AgentVoiceState := KeyedMap (String × AgentVoiceGrant)

/-- A track close that Cloudflare has not confirmed yet. -/
structure PendingMediaCleanup where
  sessionId : String
  mids : List String
deriving DecidableEq, Repr, Inhabited

end Free4Chat
