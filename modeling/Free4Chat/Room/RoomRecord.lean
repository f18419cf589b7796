import Free4Chat.Room.LiveTranscript
import Free4Chat.Room.MediaGrants

/-!
# The Room Record

The record that a Room persists, and how it is saved. A record is saved only within its byte
budget; messages are evicted from the oldest end first, and a record that still does not fit is
rejected without changing what is stored.

* `RoomRecord`: the persisted Room, with two specification fields that no decision reads.
* `RoomEnv`: what an operation observes of its environment.
* `appendMessage`: allocates a sequence number and appends to the bounded log.
* `saveRoom`: the record that a save stores, if it succeeds.
-/

namespace Free4Chat

/-- Number of messages that the log retains. -/
def MAX_MESSAGES : ℕ := 100

/-- Byte budget of the stored record. -/
def MAX_PRIMARY_ROOM_BYTES : ℕ := 80 * 1024

/-- Deadline of a Room that never expires. -/
def NO_EXPIRY : ℕ := 4102444800000

/-- How long an empty Room is kept. -/
def EMPTY_ROOM_TIMEOUT_MS : ℕ := 30 * 60 * 1000

/-- The persisted Room. -/
structure RoomRecord where
  createdAt : ℕ
  expiresAt : ℕ
  participants : Participants := .empty
  runtimeHosts : RuntimeHostMap := .empty
  messages : List RoomMessage := []
  permissionRequests : KeyedMap PermissionRequestRecord := .empty
  liveTranscript : LiveTranscriptState := .inactive
  nextLiveTranscriptEpoch : ℕ := 1
  attachments : List RoomAttachment := []
  nextMessageSequence : ℕ := 0
  meetingNotes : MeetingNotesState := NO_MEETING_NOTES
  agentVoice : AgentVoiceState := .empty
  pendingMediaCleanup : List PendingMediaCleanup := []
  -- Specification fields, not part of the stored data: every message ever appended, also the
  -- evicted ones, and the id of every permission request ever admitted.
  history : List RoomMessage := []
  admittedPermissions : List String := []
deriving DecidableEq

/-- What an operation observes of its environment: the clock, the media switch of the deployment,
the size of the stored record and whether storage accepts writes. -/
structure RoomEnv where
  now : ℕ
  now_pos : 0 < now
  agentMediaEnabled : Bool
  -- UTF-8 length of the serialized record.
  primaryRoomBytes : RoomRecord → ℕ
  storageAccepts : Bool

namespace RoomRecord

variable (env : RoomEnv)

/-- Whether the record fits its byte budget. -/
def fitsBudget (room : RoomRecord) : Bool :=
  env.primaryRoomBytes room ≤ MAX_PRIMARY_ROOM_BYTES

/-- Drops messages from the oldest end until the rest fits, keeping the newest message. -/
def dropOldestUntil (fits : List RoomMessage → Bool) : List RoomMessage → List RoomMessage
  | [] => []
  | [message] => [message]
  | _ :: message :: messages =>
    if fits (message :: messages) then message :: messages
    else dropOldestUntil fits (message :: messages)

/-- Evicts messages until the record fits its budget. -/
def trimRoomMessagesToBudget (room : RoomRecord) : RoomRecord :=
  if room.fitsBudget env then room
  else
    { room with
      messages := dropOldestUntil
        (fun messages => { room with messages }.fitsBudget env) room.messages }

/-- The record that a save stores, or `none` when the save is rejected. -/
def saveRoom (room : RoomRecord) : Option RoomRecord :=
  let trimmed := room.trimRoomMessagesToBudget env
  if trimmed.fitsBudget env && env.storageAccepts then some trimmed else none

/-- Appends a message, with the next sequence number, to the bounded log. -/
def appendMessage (room : RoomRecord) (message : RoomMessage) : RoomRecord :=
  let roomMessage := { message with sequence := room.nextMessageSequence + 1 }
  let messages := room.messages ++ [roomMessage]
  { room with
    nextMessageSequence := roomMessage.sequence
    messages := messages.drop (messages.length - MAX_MESSAGES)
    history := room.history ++ [roomMessage] }.trimRoomMessagesToBudget env

/-- Whether the Room has passed its deadline. -/
def isExpired (room : RoomRecord) : Bool := room.expiresAt ≤ env.now

/-- The deadline of a Room: none while somebody is in it, and one that is not pushed back while
it is empty. -/
def computeExpiresAt (participantCount currentExpiresAt now : ℕ) : ℕ :=
  if 0 < participantCount then NO_EXPIRY
  else if currentExpiresAt = NO_EXPIRY then now + EMPTY_ROOM_TIMEOUT_MS
  else currentExpiresAt

/-- Recomputes the deadline after participants came or went. -/
def applyEmptyRoomExpiry (room : RoomRecord) : RoomRecord :=
  { room with expiresAt := computeExpiresAt room.participants.size room.expiresAt env.now }

end RoomRecord

end Free4Chat
