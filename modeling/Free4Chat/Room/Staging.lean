import Free4Chat.Room.RoomRecord

/-!
# Staging Revocations in a Room

Every revocation of Agent media first moves the handles into the queue of pending closes of the
Room record; the closes themselves are attempted after the record is saved.

* `RoomRecord.stageAgentMediaRevocation`: one participant.
* `RoomRecord.stageMediaGrantRevocations`: the revocations that a grant transition asks for.
* `RoomRecord.stageLiveTranscriptMediaRevocation`: the Agents of the producing host.
* `RoomRecord.garbageCollectRuntimeHostAuthorization`: after a participant departs.
-/

namespace Free4Chat

@[simp]
lemma stageAgentMediaRevocation_id (participant : RoomParticipant)
    (pending : List PendingMediaCleanup) (direction : AgentMediaRevocationDirection) :
    (stageAgentMediaRevocation participant pending direction).1.id = participant.id := by
  unfold stageAgentMediaRevocation
  cases participant.media with
  | none => rfl
  | some media =>
    dsimp only
    split <;> rfl

/-- Stages a direction for every selected participant, oldest first. -/
def stageSelected (select : RoomParticipant → Bool) (direction : AgentMediaRevocationDirection) :
    List RoomParticipant → List PendingMediaCleanup →
      List RoomParticipant × List PendingMediaCleanup
  | [], pending => ([], pending)
  | participant :: participants, pending =>
    let staged :=
      if select participant then stageAgentMediaRevocation participant pending direction
      else (participant, pending)
    let rest := stageSelected select direction participants staged.2
    (staged.1 :: rest.1, rest.2)

lemma map_id_stageSelected (select : RoomParticipant → Bool)
    (direction : AgentMediaRevocationDirection) (participants : List RoomParticipant)
    (pending : List PendingMediaCleanup) :
    (stageSelected select direction participants pending).1.map (·.id) =
      participants.map (·.id) := by
  induction participants generalizing pending with
  | nil => rfl
  | cons participant participants ih =>
    simp only [stageSelected, List.map_cons, ih]
    split <;> simp

/-- The participants of a Room after a direction is staged for the selected ones. -/
def stageParticipants (select : RoomParticipant → Bool)
    (direction : AgentMediaRevocationDirection) (participants : Participants)
    (pending : List PendingMediaCleanup) : Participants × List PendingMediaCleanup :=
  let staged := stageSelected select direction participants.values pending
  (⟨staged.1, by
    have hids : staged.1.map Keyed.key = participants.values.map Keyed.key :=
      map_id_stageSelected select direction participants.values pending
    rw [hids]
    exact participants.nodup⟩, staged.2)

/-- Whether a participant is an Agent of the producing host that Meeting Notes does not authorize
by itself. -/
def isRevokedProducer (meetingNotes : MeetingNotesState) (liveTranscript : LiveTranscriptState)
    (participant : RoomParticipant) : Bool :=
  match liveTranscript with
  | .inactive => false
  | .active producerRuntimeHostId _ _ =>
    participant.kind = .agent && participant.runtimeHostId = some producerRuntimeHostId &&
      !isAgentAuthorizedForMedia meetingNotes participant.id

namespace RoomRecord

variable (env : RoomEnv)

/-- Whether an Agent is authorized to receive Human audio for the live transcript. -/
def isAgentAuthorizedForLiveTranscriptMedia (room : RoomRecord) (participant : RoomParticipant) :
    Bool :=
  canAgentAppendLiveTranscript room.liveTranscript participant room.participants
    room.runtimeHosts env.agentMediaEnabled

/-- Stages a direction of one participant. -/
def stageAgentMediaRevocation (room : RoomRecord) (agentParticipantId : String)
    (direction : AgentMediaRevocationDirection) : RoomRecord :=
  match room.participants.get? agentParticipantId with
  | none => room
  | some participant =>
    let staged := Free4Chat.stageAgentMediaRevocation participant room.pendingMediaCleanup direction
    { room with
      participants := room.participants.set staged.1
      pendingMediaCleanup := staged.2 }

/-- Stages one revocation of a grant transition. A subscription that the live transcript still
authorizes is left alone; its own stop revokes it. -/
def stageMediaGrantRevocation (room : RoomRecord) (revocation : AgentMediaRevocationIntent) :
    RoomRecord :=
  let authorized := (room.participants.get? revocation.participantId).any
    (room.isAgentAuthorizedForLiveTranscriptMedia env)
  if revocation.direction.coversSubscribed && authorized then
    if revocation.direction = .both then
      room.stageAgentMediaRevocation revocation.participantId .published
    else room
  else room.stageAgentMediaRevocation revocation.participantId revocation.direction

/-- Stages the revocations of a grant transition. -/
def stageMediaGrantRevocations (room : RoomRecord)
    (revocations : List AgentMediaRevocationIntent) : RoomRecord :=
  revocations.foldl (stageMediaGrantRevocation env) room

/-- Stages the subscriptions of the Agents of the producing host. -/
def stageLiveTranscriptMediaRevocation (room : RoomRecord) : RoomRecord :=
  let staged := stageParticipants (isRevokedProducer room.meetingNotes room.liveTranscript)
    .subscribed room.participants room.pendingMediaCleanup
  { room with participants := staged.1, pendingMediaCleanup := staged.2 }

/-- Stops the live transcript when its producer is not valid, and stages its subscriptions. -/
def normalizeLiveTranscriptForRoom (room : RoomRecord) : RoomRecord :=
  let normalized := normalizeLiveTranscriptProducer room.liveTranscript room.participants
    room.runtimeHosts env.agentMediaEnabled
  if normalized.2 then
    { room.stageLiveTranscriptMediaRevocation with liveTranscript := normalized.1 }
  else room

/-- Drops the Runtime Hosts that no participant refers to. -/
def garbageCollectRuntimeHostAuthorization (room : RoomRecord) : RoomRecord :=
  { room with runtimeHosts := garbageCollectRuntimeHosts room.runtimeHosts room.participants
      }.normalizeLiveTranscriptForRoom env

/-- Clears the readiness of every Agent's voice track. -/
def clearAgentVoiceReadiness (room : RoomRecord) : RoomRecord :=
  { room with
    participants := room.participants.map (fun participant =>
      if participant.kind = .agent then
        { participant with
          media := participant.media.map fun media => { media with agentVoiceReady := none } }
      else participant) (fun participant => by simp only [RoomParticipant.key_eq]; split <;> rfl) }

end RoomRecord

end Free4Chat
