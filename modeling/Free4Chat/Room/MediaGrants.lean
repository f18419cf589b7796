import Free4Chat.Room.RuntimeHost

/-!
# Media Grants and Cleanup

The two directions of Agent media and their revocation. Meeting Notes authorizes an Agent to
subscribe to Human audio, and Agent Voice authorizes it to publish a voice track. A revocation
moves the handles of one direction from the participant into the queue of pending closes.

* `queuePendingCleanup` and `reconcileMediaCloseResults`: the queue of pending closes.
* `stageAgentMediaRevocation`: moves an Agent's handles into the queue.
* `normalizeMediaGrants` and `normalizeAgentVoiceParticipantMedia`: storage repair.
* `transitionAgentVoiceSet`, `transitionAgentVoiceForRuntimeHostUpdate`,
  `transitionMeetingNotesStart`, `transitionMeetingNotesStop` and
  `transitionMediaGrantsForParticipantDeparture`: the grant transitions and their revocations.
-/

namespace Free4Chat

open JsString (nonempty?)

/-! ## Grants -/

/-- No Meeting Notes grant. -/
def NO_MEETING_NOTES : MeetingNotesState := { active := false }

/-- Whether an Agent may receive Human audio for Meeting Notes. -/
def isAgentAuthorizedForMedia (meetingNotes : MeetingNotesState) (agentParticipantId : String) :
    Bool :=
  meetingNotes.active && meetingNotes.agentParticipantId = some agentParticipantId

/-- The Meeting Notes grant after a participant departs. -/
def clearGrantIfParticipantDeparting (meetingNotes : MeetingNotesState)
    (departingParticipantId : String) : MeetingNotesState :=
  if meetingNotes.agentParticipantId = some departingParticipantId then NO_MEETING_NOTES
  else meetingNotes

/-- A fresh grant naming an Agent as the note-taker. -/
def startMeetingNotes (agentParticipantId : String) (now : ℕ) : MeetingNotesState :=
  { active := true, agentParticipantId := some agentParticipantId, startedAt := some now }

/-- Whether an Agent may publish its voice track. -/
def isAgentAuthorizedForVoice (agentVoice : AgentVoiceState) (agentParticipantId : String) :
    Bool :=
  agentVoice.contains agentParticipantId

/-- Whether an Agent may use the shared media session, in either direction. -/
def isAgentAuthorizedForSharedMedia (meetingNotes : MeetingNotesState)
    (agentVoice : AgentVoiceState) (agentParticipantId : String)
    (liveTranscriptAuthorized : Bool) : Bool :=
  isAgentAuthorizedForMedia meetingNotes agentParticipantId ||
    isAgentAuthorizedForVoice agentVoice agentParticipantId || liveTranscriptAuthorized

/-! ## The queue of pending closes -/

/-- Largest number of sessions with pending closes before new Agent media is refused. -/
def MAX_PENDING_CLEANUP_ENTRIES : ℕ := 16

/-- Largest number of pending closes on one session before new Agent media is refused. -/
def MAX_PENDING_CLEANUP_MIDS_PER_ENTRY : ℕ := 64

/-- Merges mids into the entry of a session, at the first entry of that session. -/
def mergePendingCleanup (sessionId : String) (mids : List String) :
    List PendingMediaCleanup → List PendingMediaCleanup
  | [] => [{ sessionId, mids := mids.distinct }]
  | entry :: entries =>
    if entry.sessionId = sessionId then
      { sessionId, mids := (entry.mids ++ mids).distinct } :: entries
    else entry :: mergePendingCleanup sessionId mids entries

/-- Queues mids of a session for closing. Nothing already queued is ever dropped. -/
def queuePendingCleanup (existing : List PendingMediaCleanup) (sessionId : String)
    (mids : List String) : List PendingMediaCleanup :=
  if mids.isEmpty then existing else mergePendingCleanup sessionId mids existing

/-- Whether further closes of a session stay within the bounds. -/
def pendingCleanupHasCapacity (entries : List PendingMediaCleanup) (sessionId : String)
    (additionalMidCount : ℕ) : Bool :=
  match entries.find? fun entry => entry.sessionId = sessionId with
  | some entry => entry.mids.length + additionalMidCount ≤ MAX_PENDING_CLEANUP_MIDS_PER_ENTRY
  | none => entries.length < MAX_PENDING_CLEANUP_ENTRIES

/-- The closes of one session that were requested, and those of them that were confirmed. -/
structure MediaCloseResult where
  effect : PendingMediaCleanup
  confirmedMids : List String
deriving DecidableEq, Repr

/-- The requested mids that a result confirms. -/
def confirmedMidsForEffect (result : MediaCloseResult) : List String :=
  (result.confirmedMids.filter (· ∈ result.effect.mids)).distinct

/-- The queue after the mids that one result confirms are taken out of its session. -/
def reconcileMediaCloseResult (entries : List PendingMediaCleanup) (result : MediaCloseResult) :
    List PendingMediaCleanup :=
  let confirmed := confirmedMidsForEffect result
  if confirmed.isEmpty then entries
  else
    (entries.map fun entry =>
      if entry.sessionId = result.effect.sessionId then
        { entry with mids := entry.mids.filter (· ∉ confirmed) }
      else entry).filter fun entry => !entry.mids.isEmpty

/-- The queue after the confirmed closes are taken out. -/
def reconcileMediaCloseResults (entries : List PendingMediaCleanup)
    (results : List MediaCloseResult) : List PendingMediaCleanup :=
  results.foldl reconcileMediaCloseResult entries

/-! ## Staging a revocation -/

/-- Which direction of an Agent's media a revocation covers. -/
inductive AgentMediaRevocationDirection where
  | subscribed
  | published
  | both
deriving DecidableEq, Repr

/-- Whether a direction covers subscriptions. -/
def AgentMediaRevocationDirection.coversSubscribed : AgentMediaRevocationDirection → Bool
  | .published => false
  | _ => true

/-- Whether a direction covers the published track. -/
def AgentMediaRevocationDirection.coversPublished : AgentMediaRevocationDirection → Bool
  | .subscribed => false
  | _ => true

/-- The media that a revocation leaves. -/
def revokedMedia (media : RoomMediaState) (direction : AgentMediaRevocationDirection) :
    RoomMediaState :=
  let media :=
    if direction.coversSubscribed then { media with agentSubscribedMids := some [] } else media
  if direction.coversPublished then
    { media with
      agentPublishedMid := none
      agentPublishedTrackName := none
      agentVoiceReady := none
      tracks := media.tracks.filter fun track => track.kind ≠ .audio }
  else media

/-- The handles of an Agent's media that a revocation closes. -/
def revocableMids (media : RoomMediaState) (direction : AgentMediaRevocationDirection) :
    List String :=
  let mids := if direction.coversSubscribed then media.agentSubscribedMids.getD [] else []
  let publishedMid :=
    if direction.coversPublished then nonempty? media.agentPublishedMid else none
  mids ++ publishedMid.toList.filter (· ∉ mids)

/-- Moves an Agent's handles of a direction into the queue of pending closes. -/
def stageAgentMediaRevocation (participant : RoomParticipant)
    (pendingMediaCleanup : List PendingMediaCleanup)
    (direction : AgentMediaRevocationDirection) : RoomParticipant × List PendingMediaCleanup :=
  match participant.media with
  | none => (participant, pendingMediaCleanup)
  | some media =>
    if participant.kind ≠ .agent || (revocableMids media direction).isEmpty then
      (participant, pendingMediaCleanup)
    else
      ({ participant with media := some (revokedMedia media direction) },
        queuePendingCleanup pendingMediaCleanup media.sessionId (revocableMids media direction))

/-! ## Storage repair -/

/-- Whether a stored Meeting Notes state is well formed. -/
def isMeetingNotesState (meetingNotes : MeetingNotesState) : Bool :=
  !meetingNotes.active ||
    ((nonempty? meetingNotes.agentParticipantId).isSome && meetingNotes.startedAt.isSome)

/-- The Meeting Notes grant, dropped when it names no Agent of the Room. -/
def normalizeMeetingNotesGrant (meetingNotes : MeetingNotesState) (participants : Participants) :
    MeetingNotesState × Bool :=
  if !isMeetingNotesState meetingNotes then (NO_MEETING_NOTES, true)
  else if meetingNotes.active &&
      !(meetingNotes.agentParticipantId.any fun id =>
        (participants.get? id).any (·.kind = .agent)) then
    (NO_MEETING_NOTES, true)
  else (meetingNotes, false)

/-- Whether a stored voice grant is valid: its Agent is connected, on a host that can speak. -/
def isValidVoiceGrant (participants : Participants) (runtimeHosts : RuntimeHostMap)
    (entry : String × AgentVoiceGrant) : Bool :=
  ((participants.get? entry.1).any fun participant =>
    participant.kind = .agent && participant.connected &&
      (runtimeHostForParticipant runtimeHosts participant).any fun host => host.speech.tts) &&
    0 < entry.2.enabledAt

/-- The voice grants, without the invalid ones. -/
def normalizeAgentVoiceGrants (agentVoice : AgentVoiceState) (participants : Participants)
    (runtimeHosts : RuntimeHostMap) : AgentVoiceState × Bool :=
  (agentVoice.filter (isValidVoiceGrant participants runtimeHosts),
    agentVoice.values.any fun entry => !isValidVoiceGrant participants runtimeHosts entry)

/-- Whether an Agent's published media has the shape of an authorized voice publication: its one
audio track is visible, or it is not announced yet. -/
def isVoicePublication (media : RoomMediaState) : Bool :=
  (nonempty? media.agentPublishedMid).isSome &&
    (match media.tracks with
      | [] => (nonempty? media.agentPublishedTrackName).isSome
      | [track] => track.kind = .audio
      | _ => false)

/-- Drops an Agent's outbound media unless it is an authorized voice publication. The handle of a
dropped publication is not staged for closing here. -/
def normalizeAgentVoiceParticipantMedia (media : RoomMediaState) (agentVoice : AgentVoiceState)
    (participantId : String) : RoomMediaState × Bool :=
  if isAgentAuthorizedForVoice agentVoice participantId && isVoicePublication media then
    (media, false)
  else if media.tracks.isEmpty && (nonempty? media.agentPublishedMid).isNone &&
      (nonempty? media.agentPublishedTrackName).isNone then
    (media, false)
  else
    ({ media with
        tracks := []
        agentPublishedMid :=
          if (nonempty? media.agentPublishedMid).isSome then none else media.agentPublishedMid
        agentPublishedTrackName :=
          if (nonempty? media.agentPublishedTrackName).isSome then none
          else media.agentPublishedTrackName
        agentVoiceReady := none }, true)

/-! ## Transitions -/

/-- A revocation that a transition asks for. -/
structure AgentMediaRevocationIntent where
  participantId : String
  direction : AgentMediaRevocationDirection
deriving DecidableEq, Repr

/-- Enables or disables the voice of an Agent. -/
def transitionAgentVoiceSet (agentVoice : AgentVoiceState) (participants : Participants)
    (runtimeHosts : RuntimeHostMap) (pendingMediaCleanup : List PendingMediaCleanup)
    (agentMediaEnabled : Bool) (agentParticipantId : String) (enabled : Bool) (now : ℕ) :
    Except String (AgentVoiceState × List AgentMediaRevocationIntent) :=
  if enabled then
    match participants.get? agentParticipantId with
    | none => .error "voice_unavailable"
    | some agent =>
      if !agentMediaEnabled || agent.kind ≠ .agent || !agent.connected ||
          !((runtimeHostForParticipant runtimeHosts agent).any fun host => host.speech.tts) then
        .error "voice_unavailable"
      else if isAgentAuthorizedForVoice agentVoice agent.id then .ok (agentVoice, [])
      else if !pendingCleanupHasCapacity pendingMediaCleanup
          ((agent.media.map (·.sessionId)).getD "") 1 then
        .error "agent_media_cleanup_backlog"
      else .ok (agentVoice.set (agent.id, { enabledAt := now }), [])
  else if !agentVoice.contains agentParticipantId then .ok (agentVoice, [])
  else
    .ok (agentVoice.erase agentParticipantId,
      [{ participantId := agentParticipantId, direction := .published }])

/-- The voice grants after an Agent's Runtime Host update: an Agent that moves loses its grant,
and all Agents of a host that stops speaking lose theirs. -/
def transitionAgentVoiceForRuntimeHostUpdate (agentVoice : AgentVoiceState)
    (participants : Participants) (participant : RoomParticipant)
    (currentHost : RuntimeHostProjection) (previousHostId : Option String)
    (previousProjection : Option RuntimeHostProjection) :
    AgentVoiceState × List AgentMediaRevocationIntent :=
  let moved :=
    if (nonempty? previousHostId).any (· ≠ currentHost.runtimeHostId) then [participant.id]
    else []
  let silenced :=
    if (previousProjection.any fun host => host.speech.tts) && !currentHost.speech.tts then
      runtimeHostParticipantIds participants.values currentHost.runtimeHostId participant.id
    else []
  let revokeIds := ((moved ++ silenced).filter agentVoice.contains).distinct
  (revokeIds.foldl KeyedMap.erase agentVoice,
    revokeIds.map fun participantId => { participantId, direction := .published })

/-- Starts Meeting Notes with an Agent. An earlier note-taker loses its subscriptions. -/
def transitionMeetingNotesStart (meetingNotes : MeetingNotesState) (participants : Participants)
    (pendingMediaCleanup : List PendingMediaCleanup) (agentMediaEnabled : Bool)
    (agentParticipantId : String) (now : ℕ) :
    Except String (MeetingNotesState × List AgentMediaRevocationIntent × Bool) :=
  if !agentMediaEnabled then .error "meeting_notes_media_disabled"
  else
    match participants.get? agentParticipantId with
    | none => .error "agent_not_in_room"
    | some agent =>
      if agent.kind ≠ .agent || !agent.connected then .error "agent_not_in_room"
      else if isAgentAuthorizedForMedia meetingNotes agent.id then .ok (meetingNotes, [], true)
      else if MAX_PENDING_CLEANUP_ENTRIES ≤ pendingMediaCleanup.length then
        .error "agent_media_cleanup_backlog"
      else
        .ok (startMeetingNotes agent.id now,
          ((nonempty? meetingNotes.agentParticipantId).toList.filter (· ≠ agent.id)).map
            fun participantId => { participantId, direction := .subscribed },
          false)

/-- Stops Meeting Notes. -/
def transitionMeetingNotesStop (meetingNotes : MeetingNotesState) :
    MeetingNotesState × List AgentMediaRevocationIntent :=
  (NO_MEETING_NOTES,
    (nonempty? meetingNotes.agentParticipantId).toList.map fun participantId =>
      { participantId, direction := .subscribed })

/-- The grants after a participant departs. An Agent that departs loses both directions. -/
def transitionMediaGrantsForParticipantDeparture (meetingNotes : MeetingNotesState)
    (agentVoice : AgentVoiceState) (participant : RoomParticipant) :
    MeetingNotesState × AgentVoiceState × List AgentMediaRevocationIntent :=
  (clearGrantIfParticipantDeparting meetingNotes participant.id,
    agentVoice.erase participant.id,
    if participant.kind = .agent then [{ participantId := participant.id, direction := .both }]
    else [])

end Free4Chat
