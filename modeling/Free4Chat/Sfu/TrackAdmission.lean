import Free4Chat.Operation.Media

/-!
# Admission of Upstream Tracks

The Worker forwards the tracks that a participant requests to Cloudflare. Before it does, it asks
the Room to authorize the request, and then to authorize every remote track. Other operations of
the Room may happen between these calls. The tracks are untrusted JSON.

* `resolveAgentPurposePermission`: what a purpose permits.
* `RoomRecord.authorize`: the answer of the Room.
* `forwardedTracks`: the tracks that the Worker forwards.
* `VerifiedTrack`: a track is the authorized voice track, or one of Human audio that was checked.
* `verifiedTrack_iff`: a forwarded track of an Agent is verified exactly when its shape is one that
  the passes over the tracks look at.
-/

namespace Free4Chat

open JsString (nonempty?)

/-! ## The Room -/

/-- What a purpose permits: only the two Human audio purposes subscribe, and only voice reply
publishes. Video is always refused. -/
def resolveAgentPurposePermission (purpose : Option String) (wantsLocalPublish
    wantsRemoteSubscribe involvesVideo : Bool) : Except String Unit := do
  Except.rejectWhen involvesVideo "agent_video_forbidden"
  Except.rejectWhen (purpose.all fun purpose => purpose ∉ ["meeting-notes", "live-transcript",
    "voice-reply", "agent-transport", "participant-reliable"]) "agent_media_purpose_required"
  Except.rejectWhen (wantsLocalPublish ∧ purpose ≠ some "voice-reply")
    "agent_media_direction_forbidden"
  Except.rejectWhen (wantsRemoteSubscribe ∧ purpose ≠ some "meeting-notes" ∧
    purpose ≠ some "live-transcript") "agent_media_direction_forbidden"

/-- Whether a session and a track name are those of an audio track of a Human in the Room. -/
def isHumanAudioTrackTarget (participants : Participants) (trackSessionId trackName : String) :
    Bool :=
  participants.values.any fun candidate =>
    candidate.kind = .human && candidate.media.any fun media =>
      media.sessionId = trackSessionId &&
        media.tracks.any fun track => track.trackName = trackName && track.kind = .audio

/-- Whether a session and a track name are those of a track of anybody in the Room. -/
def isTrackTarget (participants : Participants) (trackSessionId trackName : String) : Bool :=
  participants.values.any fun candidate =>
    candidate.media.any fun media =>
      media.sessionId = trackSessionId && media.tracks.any fun track =>
        track.trackName = trackName

/-- A request for authorization. -/
structure AuthorizeRequest where
  participantId : String
  token : String
  sessionId : String
  trackSessionId : Option String := none
  trackName : Option String := none
  remoteTrackCount : ℕ := 0
  purpose : Option String := none
  wantsVoicePublish : Bool := false
  localTrackCount : ℕ := 0

namespace RoomRecord

/-- Whether an Agent may use media for the purpose of a request. -/
def authorizeAgentMedia (env : RoomEnv) (room : RoomRecord) (agent : RoomParticipant)
    (request : AuthorizeRequest) : Except String Unit := do
  let liveTranscriptAuthorized := room.isAgentAuthorizedForLiveTranscriptMedia env agent
  resolveAgentPurposePermission request.purpose (0 < request.localTrackCount)
    (0 < request.remoteTrackCount || (nonempty? request.trackSessionId).isSome) false
  Except.rejectWhen (request.wantsVoicePublish ∧
    isAgentAuthorizedForVoice room.agentVoice agent.id = false) "voice_reply_not_authorized"
  Except.rejectWhen (request.purpose = some "meeting-notes" ∧
    isAgentAuthorizedForMedia room.meetingNotes agent.id = false) "meeting_notes_not_authorized"
  Except.rejectWhen (request.purpose = some "live-transcript" ∧ liveTranscriptAuthorized = false)
    "live_transcript_not_authorized"
  Except.rejectWhen (request.purpose = some "voice-reply" ∧
    isAgentAuthorizedForVoice room.agentVoice agent.id = false) "voice_reply_not_authorized"
  Except.rejectWhen (request.purpose = some "agent-transport" ∧
    Free4Chat.isAgentAuthorizedForSharedMedia room.meetingNotes room.agentVoice agent.id
      liveTranscriptAuthorized = false) "agent_media_not_authorized"
  Except.rejectWhen ((nonempty? (agent.media.bind (·.agentPublishedMid))).isSome ∧
    0 < request.localTrackCount) "agent_publish_capacity_exceeded"

/-- Whether the new tracks of an Agent are within capacity. -/
def checkAgentMediaCapacity (room : RoomRecord) (agent : RoomParticipant)
    (request : AuthorizeRequest) : Except String Unit := do
  let activeMids := ((agent.media.bind (·.agentSubscribedMids)).getD []).length
  Except.rejectWhen (0 < request.remoteTrackCount ∧
    MAX_AGENT_SUBSCRIBED_MIDS < activeMids + request.remoteTrackCount)
    "agent_media_capacity_exceeded"
  let newTrackCount := request.remoteTrackCount + request.localTrackCount
  let sessionId := (agent.media.map (·.sessionId)).getD request.sessionId
  Except.rejectWhen (0 < newTrackCount ∧
    pendingCleanupHasCapacity room.pendingMediaCleanup sessionId newTrackCount = false)
    "agent_media_cleanup_backlog"

/-- Whether a participant may use media for a request. The media of Humans is not restricted. -/
def authorizeMedia (env : RoomEnv) (room : RoomRecord) (participant : RoomParticipant)
    (request : AuthorizeRequest) : Except String Unit :=
  match participant.kind with
  | .human => .ok ()
  | .agent => do
    room.authorizeAgentMedia env participant request
    room.checkAgentMediaCapacity participant request

/-- Whether a participant may subscribe to the track of a request, if the request names one. -/
def checkTrackTarget (room : RoomRecord) (kind : ParticipantKind) (request : AuthorizeRequest) :
    Except String Unit :=
  match nonempty? request.trackSessionId, nonempty? request.trackName with
  | some trackSessionId, some trackName =>
    let allowed := match kind with
      | .agent => isHumanAudioTrackTarget room.participants trackSessionId trackName
      | .human => isTrackTarget room.participants trackSessionId trackName
    Except.rejectWhen (allowed = false) "track_not_found"
  | _, _ => .ok ()

/-- The answer of the Room: the kind of the participant. Whether an Agent has routes of the
participant data transport is a parameter. -/
def authorize (env : RoomEnv) (hasTransportRoutes : RoomRecord → String → Bool)
    (room : RoomRecord) (request : AuthorizeRequest) : Except String ParticipantKind := do
  let participantReliableSession := request.purpose = some "participant-reliable"
  let participant ← Except.require (room.findParticipant request.participantId request.token
    (if participantReliableSession then "" else request.sessionId)) "unauthorized"
  Except.rejectWhen (participantReliableSession ∧ (participant.kind ≠ .agent ∨
    participant.participantDataTransport.map (·.sessionId) ≠ some request.sessionId ∨
    hasTransportRoutes room participant.id = false)) "participant_data_transport_unavailable"
  room.authorizeMedia env participant request
  room.checkTrackTarget participant.kind request
  return participant.kind

end RoomRecord

/-! ## The Worker -/

/-- The parts of a request body for tracks. -/
structure TracksBody where
  participantId : String
  token : String
  sessionId : String
  tracks : JsValue
  purpose : JsValue
  wantsVoicePublish : JsValue

/-- The track objects of a body. A value that is not a list of objects is refused as a whole. -/
def trackObjects : JsValue → Option (List JsValue)
  | .undefined => some []
  | .arr items => if items.all fun item => item.asRecord?.isSome then some items else none
  | _ => none

/-- Whether a track says that it is remote. -/
def isRemoteTrack (track : JsValue) : Bool := (track.get "location").asString? = some "remote"

/-- Whether a track says that it is local. -/
def isLocalTrack (track : JsValue) : Bool := (track.get "location").asString? = some "local"

/-- Whether a track says that it is audio. -/
def isAudioTrack (track : JsValue) : Bool := (track.get "kind").asString? = some "audio"

/-- The answers of the Room to the calls of one request: the first call, and those after it. -/
abbrev RoomControl := ℕ → AuthorizeRequest → Except String ParticipantKind

/-- The first request for authorization. -/
def TracksBody.firstRequest (body : TracksBody) (tracks : List JsValue) : AuthorizeRequest :=
  { participantId := body.participantId
    token := body.token
    sessionId := body.sessionId
    remoteTrackCount := (tracks.filter isRemoteTrack).length
    purpose := body.purpose.asString?
    wantsVoicePublish := body.wantsVoicePublish.asBool? = some true
    localTrackCount := (tracks.filter isLocalTrack).length }

/-- The request for the authorization of a remote track. -/
def TracksBody.remoteRequest (body : TracksBody) (track : JsValue) : AuthorizeRequest :=
  { participantId := body.participantId
    token := body.token
    sessionId := body.sessionId
    trackSessionId := (track.get "sessionId").asString?
    trackName := (track.get "trackName").asString?
    purpose := body.purpose.asString? }

/-- Whether the local tracks of an Agent are the one audio track that it may publish. -/
def checkAgentLocalTracks (agentMediaEnabled : Bool) (body : TracksBody)
    (tracks : List JsValue) : Except String Unit := do
  Except.rejectWhen (agentMediaEnabled = false) "agent_media_disabled"
  resolveAgentPurposePermission body.purpose.asString? true
    (0 < (tracks.filter isRemoteTrack).length)
    ((tracks.filter isLocalTrack).any fun track => !isAudioTrack track)
  Except.rejectWhen ((tracks.filter isLocalTrack).length ≠ 1) "agent_publish_invalid_track_count"

/-- Whether a participant may publish the local tracks of a request. -/
def checkLocalTracks (agentMediaEnabled : Bool) (body : TracksBody) (kind : ParticipantKind)
    (tracks : List JsValue) : Except String Unit :=
  if kind = .agent ∧ 0 < (tracks.filter isLocalTrack).length then
    checkAgentLocalTracks agentMediaEnabled body tracks
  else .ok ()

/-- Authorizes remote tracks one after the other. -/
def authorizeRemoteTracks (control : RoomControl) (body : TracksBody) :
    ℕ → List JsValue → Except String Unit
  | _, [] => .ok ()
  | call, track :: tracks => do
    let _ ← control call (body.remoteRequest track)
    authorizeRemoteTracks control body (call + 1) tracks

/-- The tracks that the Worker forwards, and the kind of the participant. -/
def forwardedTracks (agentMediaEnabled : Bool) (control : RoomControl) (body : TracksBody) :
    Except String (ParticipantKind × List JsValue) := do
  Except.rejectWhen (body.participantId = "" ∨ body.token = "" ∨ body.sessionId = "")
    "missing_session"
  let tracks ← Except.require (trackObjects body.tracks) "invalid_tracks"
  let kind ← control 0 (body.firstRequest tracks)
  checkLocalTracks agentMediaEnabled body kind tracks
  authorizeRemoteTracks control body 1 (tracks.filter isRemoteTrack)
  return (kind, tracks)

/-! ## Verification -/

/-- The records of a Room at the calls of one request. The Worker generates participant ids and
does not use one again, so that an id names participants of one kind. -/
structure RoomTimeline where
  room? : ℕ → Option RoomRecord
  kind_eq : ∀ {call call' : ℕ} {room room' : RoomRecord} {participant participant' : RoomParticipant}
    {participantId : String}, room? call = some room → room? call' = some room' →
    room.participants.get? participantId = some participant →
    room'.participants.get? participantId = some participant' →
    participant.kind = participant'.kind

/-- The answers of a Room to the calls of one request. -/
def RoomTimeline.control (rooms : RoomTimeline) (env : ℕ → RoomEnv)
    (hasTransportRoutes : RoomRecord → String → Bool) : RoomControl := fun call request =>
  match rooms.room? call with
  | none => .error "room_expired"
  | some room => room.authorize (env call) hasTransportRoutes request

/-- Whether an Agent may hear Human audio for a purpose. -/
def MayHear (env : RoomEnv) (room : RoomRecord) (agent : RoomParticipant)
    (purpose : Option String) : Prop :=
  (purpose = some "meeting-notes" ∧ isAgentAuthorizedForMedia room.meetingNotes agent.id = true) ∨
    (purpose = some "live-transcript" ∧
      room.isAgentAuthorizedForLiveTranscriptMedia env agent = true)

/-- Every forwarded track of an Agent should be one of these: the one local audio track that the
Agent may publish, or a remote track that the Room checked to be an audio track of a Human that the
Agent may hear. -/
inductive VerifiedTrack (env : ℕ → RoomEnv) (rooms : RoomTimeline) (body : TracksBody)
    (tracks : List JsValue) (track : JsValue) : Prop where
  | voice {room : RoomRecord} (hroom : rooms.room? 0 = some room) (hlocal : isLocalTrack track = true)
      (haudio : isAudioTrack track = true) (hsingle : tracks.filter isLocalTrack = [track])
      (hpurpose : body.purpose.asString? = some "voice-reply")
      (hauthorized : isAgentAuthorizedForVoice room.agentVoice body.participantId = true)
  | humanAudio {call : ℕ} {room : RoomRecord} {agent : RoomParticipant}
      {trackSessionId trackName : String} (hroom : rooms.room? call = some room)
      (hagent : room.findParticipant body.participantId body.token body.sessionId = some agent)
      (hremote : isRemoteTrack track = true)
      (hsession : (track.get "sessionId").asString? = some trackSessionId)
      (hsession_ne : trackSessionId ≠ "")
      (hname : (track.get "trackName").asString? = some trackName) (hname_ne : trackName ≠ "")
      (htarget : isHumanAudioTrackTarget room.participants trackSessionId trackName = true)
      (hhear : MayHear (env call) room agent body.purpose.asString?)

/-- The shapes that the passes over the tracks look at: local tracks, and remote ones that name a
session and a track. -/
def checkedShape (track : JsValue) : Bool :=
  isLocalTrack track ||
    (isRemoteTrack track && (nonempty? (track.get "sessionId").asString?).isSome &&
      (nonempty? (track.get "trackName").asString?).isSome)

/-! ## What an authorization says -/

lemma voiceReply_of_resolve {purpose : Option String} {wantsRemoteSubscribe involvesVideo : Bool}
    {u : Unit}
    (h : resolveAgentPurposePermission purpose true wantsRemoteSubscribe involvesVideo = .ok u) :
    purpose = some "voice-reply" ∧ involvesVideo = false := by
  simp only [resolveAgentPurposePermission, Except.bind_eq_ok, Except.rejectWhen_eq_ok] at h
  obtain ⟨-, hvideo, -, -, -, hpublish, -⟩ := h
  exact ⟨not_not.mp fun hne => hpublish ⟨trivial, hne⟩, eq_false_of_ne_true hvideo⟩

lemma humanAudio_of_resolve {purpose : Option String} {wantsLocalPublish : Bool} {u : Unit}
    (h : resolveAgentPurposePermission purpose wantsLocalPublish true false = .ok u) :
    purpose = some "meeting-notes" ∨ purpose = some "live-transcript" := by
  simp only [resolveAgentPurposePermission, Except.bind_eq_ok, Except.rejectWhen_eq_ok] at h
  obtain ⟨-, -, -, -, -, -, hsubscribe⟩ := h
  by_contra hnone
  rw [not_or] at hnone
  exact hsubscribe ⟨trivial, hnone⟩

namespace RoomRecord

variable {env : RoomEnv} {hasTransportRoutes : RoomRecord → String → Bool} {room : RoomRecord}
  {request : AuthorizeRequest} {kind : ParticipantKind}

lemma authorize_eq_ok (h : room.authorize env hasTransportRoutes request = .ok kind) :
    ∃ participant,
      room.findParticipant request.participantId request.token
        (if request.purpose = some "participant-reliable" then "" else request.sessionId) =
          some participant ∧
      participant.kind = kind ∧
      (kind = .agent → room.authorizeAgentMedia env participant request = .ok ()) ∧
      room.checkTrackTarget kind request = .ok () := by
  rw [authorize] at h
  obtain ⟨participant, hfound, h⟩ := Except.bind_eq_ok.mp h
  obtain ⟨-, -, h⟩ := Except.bind_eq_ok.mp h
  obtain ⟨⟨⟩, hmedia, h⟩ := Except.bind_eq_ok.mp h
  obtain ⟨⟨⟩, htarget, h⟩ := Except.bind_eq_ok.mp h
  have hkind := Except.pure_eq_ok.mp h
  rw [authorizeMedia, hkind] at hmedia
  rw [hkind] at htarget
  refine ⟨participant, Except.require_eq_ok.mp hfound, hkind, fun hagent => ?_, htarget⟩
  rw [hagent] at hmedia
  obtain ⟨⟨⟩, hmedia, -⟩ := Except.bind_eq_ok.mp hmedia
  exact hmedia

lemma get?_of_findParticipant {participantId token sessionId : String}
    {participant : RoomParticipant}
    (h : room.findParticipant participantId token sessionId = some participant) :
    room.participants.get? participantId = some participant ∧ participant.id = participantId := by
  have hget := (Option.filter_eq_some_iff.mp h).1
  exact ⟨hget, KeyedMap.key_of_get? hget⟩

lemma voice_of_authorizeAgentMedia {agent : RoomParticipant}
    (h : room.authorizeAgentMedia env agent request = .ok ())
    (hpurpose : request.purpose = some "voice-reply") :
    isAgentAuthorizedForVoice room.agentVoice agent.id = true := by
  simp only [authorizeAgentMedia, Except.bind_eq_ok, Except.rejectWhen_eq_ok] at h
  obtain ⟨-, -, -, -, -, -, -, -, -, hvoice, -⟩ := h
  exact not_not.mp fun hnot => hvoice ⟨hpurpose, eq_false_of_ne_true hnot⟩

lemma mayHear_of_authorizeAgentMedia {agent : RoomParticipant}
    (h : room.authorizeAgentMedia env agent request = .ok ())
    (htrack : (nonempty? request.trackSessionId).isSome = true) :
    MayHear env room agent request.purpose := by
  simp only [authorizeAgentMedia, Except.bind_eq_ok, Except.rejectWhen_eq_ok, htrack,
    Bool.or_true] at h
  obtain ⟨⟨⟩, hresolve, -, -, -, hnotes, -, htranscript, -⟩ := h
  rcases humanAudio_of_resolve hresolve with hpurpose | hpurpose
  · exact .inl ⟨hpurpose, not_not.mp fun hnot => hnotes ⟨hpurpose, eq_false_of_ne_true hnot⟩⟩
  · exact .inr ⟨hpurpose, not_not.mp fun hnot => htranscript ⟨hpurpose, eq_false_of_ne_true hnot⟩⟩

end RoomRecord

/-! ## What is forwarded -/

section Forwarded

variable {agentMediaEnabled : Bool} {control : RoomControl} {body : TracksBody}
  {kind : ParticipantKind} {tracks : List JsValue} {track : JsValue}

lemma exists_call_of_authorizeRemoteTracks {call : ℕ} {u : Unit}
    (h : authorizeRemoteTracks control body call tracks = .ok u) (hmem : track ∈ tracks) :
    ∃ call' kind, control call' (body.remoteRequest track) = .ok kind := by
  induction tracks generalizing call with
  | nil => exact absurd hmem List.not_mem_nil
  | cons head tracks ih =>
    rw [authorizeRemoteTracks] at h
    obtain ⟨kind, hcall, hrest⟩ := Except.bind_eq_ok.mp h
    rcases List.mem_cons.mp hmem with rfl | hmem
    · exact ⟨call, kind, hcall⟩
    · exact ih hrest hmem

lemma forwardedTracks_eq_ok
    (h : forwardedTracks agentMediaEnabled control body = .ok (.agent, tracks)) :
    control 0 (body.firstRequest tracks) = .ok .agent ∧
      checkLocalTracks agentMediaEnabled body .agent tracks = .ok () ∧
      authorizeRemoteTracks control body 1 (tracks.filter isRemoteTrack) = .ok () := by
  rw [forwardedTracks] at h
  obtain ⟨-, -, h⟩ := Except.bind_eq_ok.mp h
  obtain ⟨requested, -, h⟩ := Except.bind_eq_ok.mp h
  obtain ⟨kind, hfirst, h⟩ := Except.bind_eq_ok.mp h
  obtain ⟨⟨⟩, hlocal, h⟩ := Except.bind_eq_ok.mp h
  obtain ⟨⟨⟩, hremote, h⟩ := Except.bind_eq_ok.mp h
  obtain ⟨rfl, rfl⟩ := Prod.mk.inj (Except.pure_eq_ok.mp h)
  exact ⟨hfirst, hlocal, hremote⟩

lemma single_of_checkLocalTracks {u : Unit}
    (h : checkLocalTracks agentMediaEnabled body .agent tracks = .ok u) (hmem : track ∈ tracks)
    (hlocal : isLocalTrack track = true) :
    tracks.filter isLocalTrack = [track] ∧ isAudioTrack track = true ∧
      body.purpose.asString? = some "voice-reply" := by
  have hfilter : track ∈ tracks.filter isLocalTrack := List.mem_filter.mpr ⟨hmem, hlocal⟩
  rw [checkLocalTracks, if_pos ⟨rfl, List.length_pos_of_mem hfilter⟩,
    checkAgentLocalTracks] at h
  obtain ⟨-, -, h⟩ := Except.bind_eq_ok.mp h
  obtain ⟨⟨⟩, hresolve, hcount⟩ := Except.bind_eq_ok.mp h
  obtain ⟨hpurpose, hvideo⟩ := voiceReply_of_resolve hresolve
  rw [Except.rejectWhen_eq_ok, not_not] at hcount
  obtain ⟨single, hsingle⟩ := List.length_eq_one_iff.mp hcount
  rw [hsingle, List.mem_singleton] at hfilter
  rw [hsingle, List.any_cons, List.any_nil, Bool.or_false, ← hfilter] at hvideo
  refine ⟨hsingle.trans (by rw [hfilter]), ?_, hpurpose⟩
  rw [← Bool.not_eq_false']
  simp [hvideo]

end Forwarded

section Verified

variable {agentMediaEnabled : Bool} {env : ℕ → RoomEnv}
  {hasTransportRoutes : RoomRecord → String → Bool} {rooms : RoomTimeline} {body : TracksBody}
  {tracks : List JsValue} {track : JsValue}

lemma RoomTimeline.control_eq_ok {call : ℕ} {request : AuthorizeRequest} {kind : ParticipantKind}
    (h : rooms.control env hasTransportRoutes call request = .ok kind) :
    ∃ room, rooms.room? call = some room ∧
      room.authorize (env call) hasTransportRoutes request = .ok kind := by
  rw [RoomTimeline.control] at h
  split at h
  · cases h
  · next room hroom => exact ⟨room, hroom, h⟩

lemma verifiedTrack_of_local
    (hforward : forwardedTracks agentMediaEnabled (rooms.control env hasTransportRoutes) body =
      .ok (.agent, tracks)) (hmem : track ∈ tracks) (hlocal : isLocalTrack track = true) :
    VerifiedTrack env rooms body tracks track := by
  obtain ⟨hfirst, hlocals, -⟩ := forwardedTracks_eq_ok hforward
  obtain ⟨hsingle, haudio, hpurpose⟩ := single_of_checkLocalTracks hlocals hmem hlocal
  obtain ⟨room, hroom, hauthorize⟩ := RoomTimeline.control_eq_ok hfirst
  obtain ⟨agent, hfound, -, hmedia, -⟩ := RoomRecord.authorize_eq_ok hauthorize
  have hvoice := RoomRecord.voice_of_authorizeAgentMedia (hmedia rfl) hpurpose
  rw [(RoomRecord.get?_of_findParticipant hfound).2] at hvoice
  exact .voice hroom hlocal haudio hsingle hpurpose hvoice

lemma verifiedTrack_of_remote
    (hforward : forwardedTracks agentMediaEnabled (rooms.control env hasTransportRoutes) body =
      .ok (.agent, tracks)) (hmem : track ∈ tracks) (hremote : isRemoteTrack track = true)
    {trackSessionId trackName : String}
    (hsession : nonempty? (track.get "sessionId").asString? = some trackSessionId)
    (hname : nonempty? (track.get "trackName").asString? = some trackName) :
    VerifiedTrack env rooms body tracks track := by
  obtain ⟨hfirst, -, hremotes⟩ := forwardedTracks_eq_ok hforward
  obtain ⟨call, kind, hcall⟩ := exists_call_of_authorizeRemoteTracks hremotes
    (List.mem_filter.mpr ⟨hmem, hremote⟩)
  obtain ⟨firstRoom, hfirstRoom, hfirstAuthorize⟩ := RoomTimeline.control_eq_ok hfirst
  obtain ⟨firstAgent, hfirstFound, hfirstKind, -⟩ := RoomRecord.authorize_eq_ok hfirstAuthorize
  obtain ⟨room, hroom, hauthorize⟩ := RoomTimeline.control_eq_ok hcall
  obtain ⟨agent, hfound, hkind, hmedia, htarget⟩ := RoomRecord.authorize_eq_ok hauthorize
  -- The participant is an Agent in this call, since it was one in the first.
  have hagent : kind = .agent := by
    rw [← hkind, ← hfirstKind]
    exact rooms.kind_eq hroom hfirstRoom (RoomRecord.get?_of_findParticipant hfound).1
      (RoomRecord.get?_of_findParticipant hfirstFound).1
  have hhear : MayHear (env call) room agent body.purpose.asString? :=
    RoomRecord.mayHear_of_authorizeAgentMedia (hmedia hagent)
      (Option.isSome_of_eq_some hsession)
  have hpurpose : body.purpose.asString? ≠ some "participant-reliable" := by
    rcases hhear with ⟨hpurpose, -⟩ | ⟨hpurpose, -⟩
    all_goals
      rw [hpurpose]
      decide
  have hfound' : room.findParticipant body.participantId body.token body.sessionId =
      some agent := by
    rw [TracksBody.remoteRequest, if_neg hpurpose] at hfound
    exact hfound
  have hsession' : nonempty? (body.remoteRequest track).trackSessionId = some trackSessionId :=
    hsession
  have hname' : nonempty? (body.remoteRequest track).trackName = some trackName := hname
  rw [RoomRecord.checkTrackTarget, hsession', hname', hagent] at htarget
  have hallowed := Bool.of_not_eq_false (Except.rejectWhen_eq_ok.mp htarget)
  obtain ⟨hsessionId, hsession_ne⟩ := JsString.nonempty?_eq_some_iff.mp hsession
  obtain ⟨htrackName, hname_ne⟩ := JsString.nonempty?_eq_some_iff.mp hname
  exact .humanAudio hroom hfound' hremote hsessionId hsession_ne htrackName hname_ne hallowed hhear

/-- A track that the Worker forwards for an Agent is verified exactly when it is local, or remote
with a session and a name. -/
theorem verifiedTrack_iff
    (hforward : forwardedTracks agentMediaEnabled (rooms.control env hasTransportRoutes) body =
      .ok (.agent, tracks)) (hmem : track ∈ tracks) :
    VerifiedTrack env rooms body tracks track ↔ checkedShape track = true := by
  rw [checkedShape, Bool.or_eq_true, Bool.and_eq_true, Bool.and_eq_true]
  constructor
  · rintro (⟨-, hlocal, -, -, -, -⟩ |
      ⟨-, -, hremote, hsession, hsession_ne, hname, hname_ne, -, -⟩)
    · exact .inl hlocal
    · refine .inr ⟨⟨hremote, ?_⟩, ?_⟩
      · exact Option.isSome_of_eq_some (JsString.nonempty?_eq_some_iff.mpr ⟨hsession, hsession_ne⟩)
      · exact Option.isSome_of_eq_some (JsString.nonempty?_eq_some_iff.mpr ⟨hname, hname_ne⟩)
  · rintro (hlocal | ⟨⟨hremote, hsession⟩, hname⟩)
    · exact verifiedTrack_of_local hforward hmem hlocal
    · obtain ⟨trackSessionId, hsession⟩ := Option.isSome_iff_exists.mp hsession
      obtain ⟨trackName, hname⟩ := Option.isSome_iff_exists.mp hname
      exact verifiedTrack_of_remote hforward hmem hremote hsession hname

end Verified

/-! ### A request that is not verified -/

/-- A Room with an Agent that takes Meeting Notes, and a Human with an audio track. -/
def notesRoom : RoomRecord :=
  { createdAt := 1
    expiresAt := NO_EXPIRY
    participants := (KeyedMap.empty.set
      { id := "agent", name := "Agent", kind := .agent, connected := true, joinedAt := 1,
        lastSeenAt := 1, token := "t", media := some { sessionId := "s" } }).set
      { id := "human", name := "Human", kind := .human, connected := true, joinedAt := 1,
        lastSeenAt := 1, token := "u",
        media := some { sessionId := "h", tracks := [{ trackName := "mic", kind := .audio }] } }
    meetingNotes := { active := true, agentParticipantId := some "agent", startedAt := some 1 } }

/-- The Room does not change during the request. -/
def notesTimeline : RoomTimeline where
  room? _ := some notesRoom
  kind_eq := by
    intro call call' room room' participant participant' participantId hroom hroom' hget hget'
    cases hroom
    cases hroom'
    rw [hget] at hget'
    cases hget'
    rfl

/-- The environment of the calls. -/
def notesEnv (_ : ℕ) : RoomEnv where
  now := 2
  now_pos := Nat.succ_pos 1
  agentMediaEnabled := true
  primaryRoomBytes _ := 0
  storageAccepts := true

/-- A body for Meeting Notes. -/
def notesBody (tracks : List JsValue) : TracksBody :=
  { participantId := "agent", token := "t", sessionId := "s", tracks := .arr tracks
    purpose := .str "meeting-notes", wantsVoicePublish := .undefined }

/-- A remote track that names the audio track of the Human. -/
def micTrack : JsValue :=
  .obj [("location", .str "remote"), ("sessionId", .str "h"), ("trackName", .str "mic")]

/-- A track without a location. -/
def unlocatedTrack : JsValue :=
  .obj [("sessionId", .str "elsewhere"), ("trackName", .str "camera")]

/-- The audio track of the Human is forwarded and verified. -/
theorem verifiedTrack_mic :
    VerifiedTrack notesEnv notesTimeline (notesBody [micTrack]) [micTrack] micTrack := by
  have hforward : forwardedTracks true (notesTimeline.control notesEnv fun _ _ => false)
      (notesBody [micTrack]) = .ok (.agent, [micTrack]) := rfl
  exact (verifiedTrack_iff hforward List.mem_cons_self).mpr (by decide)

/-- A track without a location is forwarded, and is not verified. -/
theorem not_verifiedTrack_unlocated :
    ¬∀ (agentMediaEnabled : Bool) (env : ℕ → RoomEnv)
      (hasTransportRoutes : RoomRecord → String → Bool) (rooms : RoomTimeline) (body : TracksBody)
      (tracks : List JsValue),
      forwardedTracks agentMediaEnabled (rooms.control env hasTransportRoutes) body =
        .ok (.agent, tracks) →
      ∀ track ∈ tracks, VerifiedTrack env rooms body tracks track := by
  intro hall
  have hforward : forwardedTracks true (notesTimeline.control notesEnv fun _ _ => false)
      (notesBody [unlocatedTrack]) = .ok (.agent, [unlocatedTrack]) := rfl
  have hverified := hall _ _ _ _ _ _ hforward unlocatedTrack List.mem_cons_self
  cases hverified with
  | voice _ hlocal => exact absurd hlocal (by decide)
  | humanAudio _ _ hremote => exact absurd hremote (by decide)

end Free4Chat
