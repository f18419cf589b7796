import Free4Chat.Operation.Membership

/-!
# Media Operations

The operations on media sessions, tracks and grants. An operation answers with an error, or with
the record to save, or with nothing to save.

* `RoomRecord.agentUpdateRuntimeHost`: the hot update of an Agent's Runtime Host.
* `RoomRecord.agentMediaAttach`, `RoomRecord.agentTrackSubscribed` and
  `RoomRecord.agentTrackPublished`: the handles that an Agent acquires.
* `RoomRecord.liveTranscriptStart`, `RoomRecord.meetingNotesStart` and `RoomRecord.agentVoiceSet`,
  with their opposites: the grants.
* `RoomRecord.reconcileCleanup`: takes confirmed closes out of the queue.
-/

namespace Free4Chat

open JsString (nonempty?)

/-- The purposes for which an Agent subscribes to Human audio. -/
inductive AgentMediaPurpose where
  | meetingNotes
  | liveTranscript
deriving DecidableEq, Repr

namespace RoomRecord

variable (env : RoomEnv)

/-! ## Runtime Hosts -/

/-- An Agent's hot update of its Runtime Host. The Agent already refers to the new host when the
transcript of the old one is examined. -/
def agentUpdateRuntimeHost (room : RoomRecord) (participantId token : String)
    (host : ValidRuntimeHost) : Except String RoomRecord := do
  let agent ← room.findAgent participantId token
  let update := updateRuntimeHost room.runtimeHosts room.participants agent.id host.val
  let moved := { room with runtimeHosts := update.runtimeHosts }.updateParticipant agent.id
    (fun participant => { participant with runtimeHostId := some host.val.runtimeHostId })
    fun _ => rfl
  let transition := transitionAgentVoiceForRuntimeHostUpdate moved.agentVoice moved.participants
    agent host.val update.previousHostId update.previousProjection
  let staged := { moved with agentVoice := transition.1 }.stageMediaGrantRevocations env
    transition.2
  return (staged.garbageCollectRuntimeHostAuthorization env).touch env agent.id

/-! ## Sessions and tracks -/

/-- Changes the media of a participant. -/
def updateMedia (room : RoomRecord) (participantId : String)
    (f : RoomMediaState → RoomMediaState) : RoomRecord :=
  room.updateParticipant participantId
    (fun participant => { participant with media := participant.media.map f }) fun _ => rfl

/-- Whether an Agent may use the shared media session. -/
def isAgentAuthorizedForSharedMedia (room : RoomRecord) (agent : RoomParticipant) : Bool :=
  Free4Chat.isAgentAuthorizedForSharedMedia room.meetingNotes room.agentVoice agent.id
    (room.isAgentAuthorizedForLiveTranscriptMedia env agent)

/-- Attaches a media session to an Agent. The handles of the session it replaces are staged. -/
def agentMediaAttach (room : RoomRecord) (participantId token sessionId : String) :
    Except String RoomRecord := do
  let agent ← room.findAgent participantId token
  Except.rejectWhen (room.isAgentAuthorizedForSharedMedia env agent = false)
    "meeting_notes_not_authorized"
  if agent.media.any fun media => media.sessionId = sessionId then
    return room.touch env agent.id
  else
    return (room.stageAgentMediaRevocation agent.id .both).updateParticipant agent.id
      (fun participant =>
        { participant with
          media := some { sessionId, muted := true }
          lastSeenAt := env.now }) fun _ => rfl

/-- Whether an Agent may subscribe to Human audio for a purpose. -/
def isAuthorizedForPurpose (room : RoomRecord) (agent : RoomParticipant)
    (purpose : AgentMediaPurpose) : Bool :=
  match purpose with
  | .meetingNotes => isAgentAuthorizedForMedia room.meetingNotes agent.id
  | .liveTranscript => room.isAgentAuthorizedForLiveTranscriptMedia env agent

/-- Records the handles of an Agent's new subscriptions. -/
def agentTrackSubscribed (room : RoomRecord) (participantId token sessionId : String)
    (mids : List String) (purpose : AgentMediaPurpose) : Except String RoomRecord := do
  let agent ← Except.require (room.findParticipant participantId token sessionId) "unauthorized"
  Except.rejectWhen (agent.kind ≠ .agent) "agent_only"
  Except.rejectWhen (room.isAuthorizedForPurpose env agent purpose = false)
    "agent_media_not_authorized"
  let media ← Except.require agent.media "media_unavailable"
  let merged := ((media.agentSubscribedMids.getD []) ++ mids.filter (· ≠ "")).distinct
  Except.rejectWhen (MAX_AGENT_SUBSCRIBED_MIDS < merged.length) "agent_media_capacity_exceeded"
  Except.rejectWhen (pendingCleanupHasCapacity room.pendingMediaCleanup media.sessionId 0 = false)
    "agent_media_cleanup_backlog"
  return room.updateMedia agent.id fun media => { media with agentSubscribedMids := some merged }

/-- Queues the handles of media that was refused after it was created. -/
def agentMediaCleanupPending (room : RoomRecord) (sessionId : String) (mids : List String) :
    Except String RoomRecord :=
  let mids := mids.filter (· ≠ "")
  if mids.isEmpty || sessionId = "" then .error "invalid_track"
  else
    .ok { room with
      pendingMediaCleanup := queuePendingCleanup room.pendingMediaCleanup sessionId mids }

/-- A participant reconnects its media to a new session. -/
def reconnect (room : RoomRecord) (participantId token sessionId newSessionId : String) :
    Except String RoomRecord := do
  let participant ← Except.require (room.findParticipant participantId token sessionId)
    "unauthorized"
  Except.rejectWhen (participant.media = none) "unauthorized"
  return room.updateParticipant participant.id (fun participant =>
    { participant with
      media := participant.media.map fun media =>
        { media with sessionId := newSessionId, fileChannelReady := false, tracks := [] }
      connected := false
      connectionNonce := none
      lastSeenAt := env.now }) fun _ => rfl

/-- A Human publishes a track. -/
def publish (room : RoomRecord) (participantId token sessionId : String)
    (track : RoomMediaTrack) : Except String RoomRecord := do
  let participant ← Except.require (room.findParticipant participantId token sessionId)
    "unauthorized"
  Except.rejectWhen (participant.kind = .agent) "agent_publish_not_allowed"
  Except.rejectWhen (participant.media = none) "media_unavailable"
  return (room.updateMedia participant.id fun media =>
    { media with
      tracks := media.tracks.filter (fun other => other.trackName ≠ track.trackName) ++
        [track] }).touch env participant.id

/-- Whether media shows exactly one audio track of a name. -/
def showsAudioTrack (media : RoomMediaState) (trackName : String) : Bool :=
  match media.tracks with
  | [track] => track.trackName = trackName && track.kind = .audio
  | _ => false

/-- Records the handle of an Agent's voice track, which is announced at once or later. -/
def agentTrackPublished (room : RoomRecord) (participantId token sessionId mid trackName : String)
    (announce : Bool) : Except String RoomRecord := do
  let agent ← Except.require (room.findParticipant participantId token sessionId) "unauthorized"
  Except.rejectWhen (agent.kind ≠ .agent) "unauthorized"
  Except.rejectWhen (isAgentAuthorizedForVoice room.agentVoice agent.id = false ∨ mid = "")
    "voice_reply_not_authorized"
  let media ← Except.require agent.media "media_unavailable"
  Except.rejectWhen ((nonempty? media.agentPublishedMid).any (· ≠ mid) = true)
    "agent_publish_capacity_exceeded"
  Except.rejectWhen (nonempty? media.agentPublishedMid = none ∧
    pendingCleanupHasCapacity room.pendingMediaCleanup media.sessionId 1 = false)
    "agent_media_cleanup_backlog"
  let announce := announce || showsAudioTrack media trackName
  return (room.updateMedia agent.id fun media =>
    { media with
      agentPublishedMid := some mid
      agentPublishedTrackName := some trackName
      agentVoiceReady := some false
      tracks := if announce then [{ trackName, kind := .audio }] else [] }).touch env agent.id

/-- Announces an Agent's voice track once it is active. -/
def agentTrackActive (room : RoomRecord) (participantId token sessionId trackName : String) :
    Except String (Option RoomRecord) := do
  let agent ← Except.require (room.findParticipant participantId token sessionId) "unauthorized"
  Except.rejectWhen (agent.kind ≠ .agent) "unauthorized"
  Except.rejectWhen (isAgentAuthorizedForVoice room.agentVoice agent.id = false)
    "voice_reply_not_authorized"
  let media ← Except.require agent.media "media_unavailable"
  if showsAudioTrack media trackName then
    if media.agentPublishedTrackName = some trackName then
      return some (room.updateMedia agent.id fun media =>
        { media with agentPublishedTrackName := none })
    else return none
  else if nonempty? media.agentPublishedMid = none ∨
      media.agentPublishedTrackName ≠ some trackName then throw "agent_publication_not_ready"
  else
    return some ((room.updateMedia agent.id fun media =>
      { media with
        tracks := [{ trackName, kind := .audio }]
        agentPublishedTrackName := none }).touch env agent.id)

/-- Media without a track. An Agent's handle goes with the track that is not announced yet. -/
def unpublishedMedia (kind : ParticipantKind) (trackName : String) (media : RoomMediaState) :
    RoomMediaState :=
  let media := { media with tracks := media.tracks.filter fun track => track.trackName ≠ trackName }
  if kind = .agent && media.agentPublishedTrackName = some trackName then
    { media with agentPublishedTrackName := none, agentPublishedMid := none }
  else media

/-- Withdraws a track by a control request. -/
def unpublish (room : RoomRecord) (participantId token trackName : String) :
    Except String RoomRecord := do
  let participant ← Except.require (room.findParticipant participantId token "") "unauthorized"
  Except.rejectWhen (participant.media = none) "media_unavailable"
  return room.updateMedia participant.id (unpublishedMedia participant.kind trackName)

/-! ## Client messages of a Human -/

/-- A Human mutes or unmutes itself. -/
def mute (room : RoomRecord) (human : RoomParticipant) (muted : Bool) : RoomRecord :=
  (room.touch env human.id).updateMedia human.id fun media => { media with muted }

/-- A Human withdraws a track. -/
def clientUnpublish (room : RoomRecord) (human : RoomParticipant) (trackName : String) :
    RoomRecord :=
  (room.touch env human.id).updateMedia human.id fun media =>
    { media with tracks := media.tracks.filter fun track => track.trackName ≠ trackName }

/-- The data channels of a Human are ready. -/
def datachannelReady (room : RoomRecord) (human : RoomParticipant) (appDataChannelReady : Bool) :
    RoomRecord :=
  (room.touch env human.id).updateMedia human.id fun media =>
    { media with fileChannelReady := true, appDataChannelReady := some appDataChannelReady }

/-! ## Grants -/

/-- A Human starts the live transcript on a host, unless it is active. -/
def liveTranscriptStart (room : RoomRecord) (human : RoomParticipant) (runtimeHostId : String) :
    Except String (Option RoomRecord) :=
  if room.liveTranscript ≠ .inactive then .ok none
  else if !env.agentMediaEnabled then .error "live_transcript_media_disabled"
  else if !canHumanStartLiveTranscript room.participants room.runtimeHosts human.id
      runtimeHostId then .error "live_transcript_unavailable"
  else
    let transition := startLiveTranscript room.liveTranscript room.nextLiveTranscriptEpoch
      runtimeHostId env.now
    .ok (some { room.touch env human.id with
      liveTranscript := transition.1
      nextLiveTranscriptEpoch := transition.2 })

/-- A Human stops the live transcript. -/
def liveTranscriptStop (room : RoomRecord) (human : RoomParticipant) : RoomRecord :=
  { (room.touch env human.id).stageLiveTranscriptMediaRevocation with liveTranscript := .inactive }

/-- A Human starts Meeting Notes with an Agent. -/
def meetingNotesStart (room : RoomRecord) (human : RoomParticipant)
    (agentParticipantId : String) : Except String (Option RoomRecord) := do
  let transition ← transitionMeetingNotesStart room.meetingNotes room.participants
    room.pendingMediaCleanup env.agentMediaEnabled agentParticipantId env.now
  if transition.2.2 then return none
  else
    return some ({ room.touch env human.id with
      meetingNotes := transition.1 }.stageMediaGrantRevocations env transition.2.1)

/-- A Human stops Meeting Notes. -/
def meetingNotesStop (room : RoomRecord) (human : RoomParticipant) : RoomRecord :=
  let transition := transitionMeetingNotesStop room.meetingNotes
  { room.touch env human.id with meetingNotes := transition.1 }.stageMediaGrantRevocations env
    transition.2

/-- The name of the voice track that an Agent publishes. -/
def currentTrackName (media : RoomMediaState) : Option String :=
  media.agentPublishedTrackName.or
    (match media.tracks with
      | [track] => if track.kind = .audio then some track.trackName else none
      | _ => none)

/-- A Human reports that it receives an Agent's voice track. -/
def agentVoiceReady (room : RoomRecord) (human : RoomParticipant)
    (agentParticipantId sessionId trackName : String) : Except String (Option RoomRecord) := do
  let agent ← Except.require ((room.participants.get? agentParticipantId).filter fun agent =>
    agent.kind = .agent && agent.connected) "agent_not_in_room"
  Except.rejectWhen (isAgentAuthorizedForVoice room.agentVoice agent.id = false)
    "voice_reply_not_authorized"
  let media ← Except.require (agent.media.filter fun media =>
    media.sessionId = sessionId && (nonempty? media.agentPublishedMid).isSome &&
      currentTrackName media = some trackName) "agent_publication_not_ready"
  if media.agentVoiceReady = some true then return none
  else
    return some (((room.touch env human.id).updateMedia agent.id fun media =>
      { media with agentVoiceReady := some true }).touch env agent.id)

/-- A Human enables or disables the voice of an Agent. -/
def agentVoiceSet (room : RoomRecord) (human : RoomParticipant) (agentParticipantId : String)
    (enabled : Bool) : Except String RoomRecord := do
  let transition ← transitionAgentVoiceSet room.agentVoice room.participants room.runtimeHosts
    room.pendingMediaCleanup env.agentMediaEnabled agentParticipantId enabled env.now
  return { room.touch env human.id with
    agentVoice := transition.1 }.stageMediaGrantRevocations env transition.2

/-! ## Cleanup -/

/-- Takes confirmed closes out of the queue. -/
def reconcileCleanup (room : RoomRecord) (results : List MediaCloseResult) : RoomRecord :=
  { room with pendingMediaCleanup := reconcileMediaCloseResults room.pendingMediaCleanup results }

end RoomRecord

/-! ## Operations -/

/-- The client messages of a Human about media and grants. -/
inductive HumanMediaOp where
  | mute (muted : Bool)
  | clientUnpublish (trackName : String)
  | datachannelReady (appDataChannelReady : Bool)
  | liveTranscriptStart (runtimeHostId : String)
  | liveTranscriptStop
  | meetingNotesStart (agentParticipantId : String)
  | meetingNotesStop
  | agentVoiceReady (agentParticipantId sessionId trackName : String)
  | agentVoiceSet (agentParticipantId : String) (enabled : Bool)

/-- The record that a Human's message saves, if it saves one. -/
def HumanMediaOp.apply (env : RoomEnv) (room : RoomRecord) (human : RoomParticipant) :
    HumanMediaOp → Option RoomRecord
  | .mute muted => some (room.mute env human muted)
  | .clientUnpublish trackName => some (room.clientUnpublish env human trackName)
  | .datachannelReady ready => some (room.datachannelReady env human ready)
  | .liveTranscriptStart runtimeHostId =>
    (room.liveTranscriptStart env human runtimeHostId).toOption.join
  | .liveTranscriptStop => some (room.liveTranscriptStop env human)
  | .meetingNotesStart agentParticipantId =>
    (room.meetingNotesStart env human agentParticipantId).toOption.join
  | .meetingNotesStop => some (room.meetingNotesStop env human)
  | .agentVoiceReady agentParticipantId sessionId trackName =>
    (room.agentVoiceReady env human agentParticipantId sessionId trackName).toOption.join
  | .agentVoiceSet agentParticipantId enabled =>
    (room.agentVoiceSet env human agentParticipantId enabled).toOption

/-- The operations on media and grants. A session id that the Worker passes on comes from
Cloudflare and is not empty. -/
inductive MediaOp where
  | human (participantId token : String) (op : HumanMediaOp)
  | updateRuntimeHost (participantId token : String) (host : ValidRuntimeHost)
  | attach (participantId token sessionId : String) (sessionId_ne : sessionId ≠ "")
  | trackSubscribed (participantId token sessionId : String) (mids : List String)
    (purpose : AgentMediaPurpose)
  | cleanupPending (sessionId : String) (mids : List String)
  | reconnect (participantId token sessionId newSessionId : String)
    (newSessionId_ne : newSessionId ≠ "")
  | publish (participantId token sessionId : String) (track : RoomMediaTrack)
  | trackPublished (participantId token sessionId mid trackName : String) (announce : Bool)
  | trackActive (participantId token sessionId trackName : String)
  | unpublish (participantId token trackName : String)

/-- The record that an operation saves, if it saves one. -/
def MediaOp.apply (env : RoomEnv) (room : RoomRecord) : MediaOp → Option RoomRecord
  | .human participantId token op =>
    (room.findHumanClient participantId token).toOption.bind fun human =>
      op.apply env room human
  | .updateRuntimeHost participantId token host =>
    (room.agentUpdateRuntimeHost env participantId token host).toOption
  | .attach participantId token sessionId _ =>
    (room.agentMediaAttach env participantId token sessionId).toOption
  | .trackSubscribed participantId token sessionId mids purpose =>
    (room.agentTrackSubscribed env participantId token sessionId mids purpose).toOption
  | .cleanupPending sessionId mids => (room.agentMediaCleanupPending sessionId mids).toOption
  | .reconnect participantId token sessionId newSessionId _ =>
    (room.reconnect env participantId token sessionId newSessionId).toOption
  | .publish participantId token sessionId track =>
    (room.publish env participantId token sessionId track).toOption
  | .trackPublished participantId token sessionId mid trackName announce =>
    (room.agentTrackPublished env participantId token sessionId mid trackName announce).toOption
  | .trackActive participantId token sessionId trackName =>
    (room.agentTrackActive env participantId token sessionId trackName).toOption.join
  | .unpublish participantId token trackName =>
    (room.unpublish participantId token trackName).toOption

end Free4Chat
