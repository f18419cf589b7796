import Free4Chat.Room.Seats
import Free4Chat.Session.Collaboration

/-!
# Effects of the Operations on the Seats

Which operations leave everybody in the Room where it is. The others are joining and leaving, the
connections of Humans, the alarm, and the report that an Agent's voice is ready.

* `ConversationOp.seatsKept_run` and `CollabEnvelope.seatsKept_ingest`: the conversation keeps the
  seats.
* `MediaOp.seatsKept_apply`: so does media, unless a Human reconnects or reports.
* `SeatStep`: what a step of a session does to the seats.
* `RoomSession.seatStep_step`: each step does one of these.
-/

namespace Free4Chat

variable {env : RoomEnv} {room room' saved : RoomRecord}

/-! ## Media -/

/-- Whether a Human reports that an Agent's voice is ready. -/
def HumanMediaOp.reportsVoice : HumanMediaOp → Bool
  | .agentVoiceReady .. => true
  | _ => false

variable {human : RoomParticipant}

lemma HumanMediaOp.seatsKept_apply {op : HumanMediaOp}
    (hop : op.reportsVoice = false) (h : op.apply env room human = some room') :
    SeatsKept SameSeat room room' := by
  have htouch := seatsKept_touch env room human.id
  cases op with
  | mute muted | clientUnpublish trackName | datachannelReady ready =>
    obtain rfl := Option.some.inj h
    exact htouch.trans (seatsKept_updateMedia _ human.id fun _ hready => hready)
  | liveTranscriptStop =>
    obtain rfl := Option.some.inj h
    exact htouch.trans ⟨sameSeat_stageSelected _ _ _ _, rfl⟩
  | meetingNotesStop =>
    obtain rfl := Option.some.inj h
    refine SeatsKept.trans ?_ (seatsKept_stageMediaGrantRevocations env _ _)
    exact htouch.trans (SeatsKept.of_participants_eq rfl rfl)
  | liveTranscriptStart runtimeHostId =>
    simp only [apply, Option.join_eq_some_iff, Except.toOption_eq_some,
      RoomRecord.liveTranscriptStart] at h
    split_ifs at h <;> simp only [Except.ok.injEq, Option.some.injEq, reduceCtorEq] at h
    obtain rfl := h
    exact htouch.trans (SeatsKept.of_participants_eq rfl rfl)
  | meetingNotesStart agentParticipantId =>
    simp only [apply, Option.join_eq_some_iff, Except.toOption_eq_some,
      RoomRecord.meetingNotesStart, Except.bind_eq_ok] at h
    obtain ⟨transition, -, h⟩ := h
    split_ifs at h <;> simp only [Except.pure_eq_ok, Option.some.injEq, reduceCtorEq] at h
    obtain rfl := h
    refine SeatsKept.trans ?_ (seatsKept_stageMediaGrantRevocations env _ _)
    exact htouch.trans (SeatsKept.of_participants_eq rfl rfl)
  | agentVoiceReady agentParticipantId sessionId trackName =>
    exact absurd hop Bool.true_eq_false.mp
  | agentVoiceSet agentParticipantId enabled =>
    simp only [apply, Except.toOption_eq_some, RoomRecord.agentVoiceSet, Except.bind_eq_ok,
      Except.pure_eq_ok] at h
    obtain ⟨transition, -, rfl⟩ := h
    refine SeatsKept.trans ?_ (seatsKept_stageMediaGrantRevocations env _ _)
    exact htouch.trans (SeatsKept.of_participants_eq rfl rfl)

/-- Whether a media operation takes a connection, or is a report about a voice. -/
def MediaOp.movesSeat : MediaOp → Bool
  | .human _ _ op => op.reportsVoice
  | .reconnect .. => true
  | _ => false

/-- Media operations keep the seats, unless a participant reconnects or a voice is reported. -/
lemma MediaOp.seatsKept_apply {op : MediaOp} (hop : op.movesSeat = false)
    (h : op.apply env room = some room') : SeatsKept SameSeat room room' := by
  cases op with
  | human participantId token op =>
    simp only [apply, Option.bind_eq_some_iff] at h
    obtain ⟨human, -, h⟩ := h
    exact HumanMediaOp.seatsKept_apply hop h
  | updateRuntimeHost participantId token host =>
    simp only [apply, Except.toOption_eq_some, RoomRecord.agentUpdateRuntimeHost,
      Except.bind_eq_ok, Except.pure_eq_ok] at h
    obtain ⟨agent, -, rfl⟩ := h
    refine SeatsKept.trans ?_ (seatsKept_touch env _ agent.id)
    refine SeatsKept.trans ?_ (seatsKept_garbageCollectRuntimeHostAuthorization env _)
    refine SeatsKept.trans ?_ (seatsKept_stageMediaGrantRevocations env _ _)
    -- The host that the Agent refers to is no part of its seat.
    have hmoved := seatsKept_updateParticipant room agent.id (f := fun participant =>
      { participant with runtimeHostId := some host.val.runtimeHostId }) (fun _ => rfl)
      fun _ => ⟨⟨rfl, rfl, fun _ => rfl, fun _ => rfl⟩, fun hready => hready⟩
    exact ⟨hmoved.participants, rfl⟩
  | attach participantId token sessionId sessionId_ne =>
    simp only [apply, Except.toOption_eq_some, RoomRecord.agentMediaAttach,
      Except.bind_eq_ok] at h
    obtain ⟨agent, -, -, -, h⟩ := h
    split_ifs at h <;> obtain rfl := Except.pure_eq_ok.mp h
    · exact seatsKept_touch env room agent.id
    · refine (seatsKept_stageAgentMediaRevocation room agent.id .both).trans
        (seatsKept_updateParticipant _ agent.id _ fun _ =>
          ⟨⟨rfl, rfl, fun _ => rfl, fun _ => rfl⟩, fun hready => ?_⟩)
      exact absurd hready (by simp [RoomParticipant.voiceReady])
  | trackSubscribed participantId token sessionId mids purpose =>
    simp only [apply, Except.toOption_eq_some, RoomRecord.agentTrackSubscribed,
      Except.bind_eq_ok, Except.pure_eq_ok] at h
    obtain ⟨agent, -, -, -, -, -, media, -, -, -, -, -, rfl⟩ := h
    exact seatsKept_updateMedia room agent.id fun _ hready => hready
  | cleanupPending sessionId mids =>
    simp only [apply, Except.toOption_eq_some, RoomRecord.agentMediaCleanupPending] at h
    split_ifs at h
    obtain rfl := Except.ok.inj h
    exact SeatsKept.of_participants_eq rfl rfl
  | reconnect participantId token sessionId newSessionId newSessionId_ne =>
    exact absurd hop Bool.true_eq_false.mp
  | publish participantId token sessionId track =>
    simp only [apply, Except.toOption_eq_some, RoomRecord.publish, Except.bind_eq_ok,
      Except.pure_eq_ok] at h
    obtain ⟨participant, -, -, -, -, -, rfl⟩ := h
    refine SeatsKept.trans ?_ (seatsKept_touch env _ participant.id)
    exact seatsKept_updateMedia room participant.id fun _ hready => hready
  | trackPublished participantId token sessionId mid trackName announce =>
    simp only [apply, Except.toOption_eq_some, RoomRecord.agentTrackPublished,
      Except.bind_eq_ok, Except.pure_eq_ok] at h
    obtain ⟨agent, -, -, -, -, -, media, -, -, -, -, -, rfl⟩ := h
    refine SeatsKept.trans ?_ (seatsKept_touch env _ agent.id)
    refine seatsKept_updateMedia room agent.id fun _ hready => ?_
    exact absurd hready (by simp)
  | trackActive participantId token sessionId trackName =>
    simp only [apply, Option.join_eq_some_iff, Except.toOption_eq_some,
      RoomRecord.agentTrackActive, Except.bind_eq_ok] at h
    obtain ⟨agent, -, -, -, -, -, media, -, h⟩ := h
    split_ifs at h <;> simp only [Except.pure_eq_ok, Option.some.injEq, reduceCtorEq] at h
    · obtain rfl := h
      exact seatsKept_updateMedia room agent.id fun _ hready => hready
    · obtain rfl := h
      refine SeatsKept.trans ?_ (seatsKept_touch env _ agent.id)
      exact seatsKept_updateMedia room agent.id fun _ hready => hready
  | unpublish participantId token trackName =>
    simp only [apply, Except.toOption_eq_some, RoomRecord.unpublish, Except.bind_eq_ok,
      Except.pure_eq_ok] at h
    obtain ⟨participant, -, -, -, rfl⟩ := h
    refine seatsKept_updateMedia room participant.id fun media hready => ?_
    simp only [RoomRecord.unpublishedMedia] at hready
    split at hready <;> exact hready

lemma reconnect_eq_ok {participantId token sessionId newSessionId : String}
    (h : room.reconnect env participantId token sessionId newSessionId = .ok room') :
    ∃ participant, room.findParticipant participantId token sessionId = some participant ∧
      room' = room.updateParticipant participant.id (fun participant =>
        { participant with
          media := participant.media.map fun media =>
            { media with sessionId := newSessionId, fileChannelReady := false, tracks := [] }
          connected := false
          connectionNonce := none
          lastSeenAt := env.now }) fun _ => rfl := by
  simp only [RoomRecord.reconnect, Except.bind_eq_ok, Except.pure_eq_ok] at h
  obtain ⟨participant, hfind, -, -, rfl⟩ := h
  exact ⟨participant, Except.require_eq_ok.mp hfind, rfl⟩

/-! ## Connections of Agents -/

/-- Whether a membership operation is about the event stream of an Agent. -/
def MembershipOp.isAgentStream : MembershipOp → Bool
  | .agentEventConnection .. | .agentEventHeartbeat .. | .agentEventClose .. => true
  | _ => false

variable {participantId token : String} {agent : RoomParticipant}

lemma get?_of_findAgent (h : room.findAgent participantId token = .ok agent) :
    room.participants.get? agent.id = some agent ∧ agent.kind = .agent := by
  rw [RoomRecord.findAgent] at h
  split at h
  · cases h
  next participant hfind =>
    split at h
    next hkind =>
      obtain rfl := Except.ok.inj h
      have hget := (Option.filter_eq_some_iff.mp hfind).1
      exact ⟨KeyedMap.get?_key (KeyedMap.mem_of_get? hget), hkind⟩
    next => cases h

lemma get?_of_findHumanClient (h : room.findHumanClient participantId token = .ok human) :
    room.participants.get? participantId = some human ∧ human.kind = .human := by
  rw [RoomRecord.findHumanClient] at h
  split at h
  · cases h
  next participant hfind =>
    split at h
    next hfound =>
      obtain rfl := Except.ok.inj h
      rw [Bool.and_eq_true, decide_eq_true_eq] at hfound
      exact ⟨(Option.filter_eq_some_iff.mp hfind).1, hfound.1⟩
    next => cases h

lemma get?_of_eventStreamAgent {participantId connectionNonce : String}
    (h : room.eventStreamAgent participantId connectionNonce = some agent) :
    room.participants.get? agent.id = some agent ∧ agent.kind = .agent := by
  obtain ⟨hget, hfilter⟩ := Option.filter_eq_some_iff.mp h
  rw [Bool.and_eq_true] at hfilter
  exact ⟨KeyedMap.get?_key (KeyedMap.mem_of_get? hget), of_decide_eq_true hfilter.1⟩

lemma seatsKept_updateAgent
    (hagent : room.participants.get? agent.id = some agent ∧ agent.kind = .agent)
    {f : RoomParticipant → RoomParticipant}
    (hf : ∀ participant, (f participant).id = participant.id) (hkind : (f agent).kind = agent.kind)
    (hready : (f agent).voiceReady = true → agent.voiceReady = true) :
    SeatsKept SameSeat room (room.updateParticipant agent.id f hf) := by
  refine seatsKept_updateParticipant_of room SameSeat.refl agent.id hf
    fun participant hmem hid => ?_
  obtain rfl := room.participants.eq_of_key_eq hmem (KeyedMap.mem_of_get? hagent.1) hid
  have hnot : participant.kind ≠ .human := by
    rw [hagent.2]
    exact ParticipantKind.noConfusion
  exact ⟨⟨hf participant, hkind, fun h => absurd h hnot, fun h => absurd h hnot⟩, hready⟩

lemma MembershipOp.seatsKept_apply {op : MembershipOp} (hop : op.isAgentStream = true)
    (h : op.apply env room = some room') : SeatsKept SameSeat room room' := by
  cases op with
  | agentEventConnection participantId token connectionNonce =>
    simp only [apply, Except.toOption_eq_some, RoomRecord.agentEventConnection, Except.bind_eq_ok,
      Except.pure_eq_ok] at h
    obtain ⟨agent, hagent, -, -, rfl⟩ := h
    cases hfind : room.findAgent participantId token with
    | error error =>
      rw [hfind] at hagent
      cases hagent
    | ok found =>
      rw [hfind] at hagent
      obtain rfl := Except.ok.inj hagent
      exact seatsKept_updateAgent (get?_of_findAgent hfind) _ rfl fun hready => hready
  | agentEventHeartbeat participantId connectionNonce =>
    simp only [apply, RoomRecord.agentEventHeartbeat, Option.map_eq_some_iff] at h
    obtain ⟨agent, hagent, rfl⟩ := h
    exact seatsKept_updateAgent (get?_of_eventStreamAgent hagent) _ rfl fun hready => hready
  | agentEventClose participantId connectionNonce =>
    simp only [apply, RoomRecord.agentEventClose, Option.map_eq_some_iff] at h
    obtain ⟨agent, hagent, rfl⟩ := h
    exact seatsKept_updateAgent (get?_of_eventStreamAgent hagent) _ rfl fun hready => hready
  | connectHuman | closeSocket | humanLeave | controlLeave | agentLeave | alarm =>
    exact absurd hop Bool.false_ne_true

/-! ## Conversation -/

lemma seatsKept_agentSendPermission {request : JsValue}
    (h : room.agentSendPermission env participantId token request = .ok (some saved)) :
    SeatsKept SameSeat room saved := by
  obtain ⟨agent, current, committed, -, hcommit, h⟩ := RoomRecord.agentSendPermission_cases h
  have htouch := seatsKept_touch env room agent.id
  have hcurrent : SeatsKept SameSeat room current := by
    rcases RoomRecord.commitPermissionExpirations_cases hcommit with ⟨rfl, -⟩ | ⟨hsave, -⟩
    · exact htouch
    · exact (htouch.trans (seatsKept_expirePermissionRequests env _ none)).trans
        (seatsKept_saveRoom env _ hsave)
  rcases h with h | ⟨answered, hanswered, hsave⟩
  · rcases RoomRecord.commitPermissionExpirations_cases hcommit with ⟨-, rfl⟩ | ⟨-, rfl⟩
    · exact absurd h (by simp)
    · obtain rfl := Option.some.inj h
      exact hcurrent
  · refine (hcurrent.trans ?_).trans (seatsKept_saveRoom env _ hsave)
    rcases hanswered with h | h
    · obtain ⟨validated, -, -, -, -, rfl⟩ := RoomRecord.ingestPermissionRequest_eq_recorded h
      have happended := seatsKept_appendMessage env current
      exact ⟨(happended _).participants, (happended _).expiresAt⟩
    · obtain ⟨existing, -, -, rfl⟩ := RoomRecord.ingestPermissionRequest_eq_replayed h
      have happended := seatsKept_appendMessage env current
      exact ⟨(happended _).participants, (happended _).expiresAt⟩

lemma seatsKept_ingestPermissionResponse {requestId selectedOptionId : String}
    (h : (room.ingestPermissionResponse env human requestId selectedOptionId).1 = some room') :
    SeatsKept SameSeat room room' := by
  simp only [RoomRecord.ingestPermissionResponse] at h
  split at h
  · exact absurd h (by simp)
  · split_ifs at h
    · obtain rfl := Option.some.inj h
      exact seatsKept_expirePermissionRequests env room _
    · obtain rfl := Option.some.inj h
      exact seatsKept_expirePermissionRequests env room _
    · obtain rfl := Option.some.inj h
      refine SeatsKept.trans ?_ (seatsKept_appendMessage env _ _)
      exact SeatsKept.of_participants_eq rfl rfl

/-- The conversation keeps the seats. -/
lemma ConversationOp.seatsKept_run {op : ConversationOp} (h : op.run env room = some saved) :
    SeatsKept SameSeat room saved := by
  obtain ⟨_, _, _, hsent⟩ | ⟨staged, hsave, hstaged⟩ := run_cases h
  · exact seatsKept_agentSendPermission hsent
  refine SeatsKept.trans ?_ (seatsKept_saveRoom env _ hsave)
  obtain ⟨id, rfl | ⟨message, -, rfl⟩⟩ | ⟨human, _, _, hanswer⟩ |
    ⟨_, _, _, _, _, _, hstart, hfinish⟩ | ⟨id, f, hid, rfl, hkept⟩ := hstaged
  · exact seatsKept_touch env room id
  · exact (seatsKept_touch env room id).trans (seatsKept_appendMessage env _ _)
  · exact (seatsKept_touch env room human.id).trans (seatsKept_ingestPermissionResponse hanswer)
  · obtain rfl := room_of_attachmentUploadStart hstart
    simp only [AttachmentUpload.finish] at hfinish
    split_ifs at hfinish
    obtain rfl := Except.ok.inj hfinish
    refine SeatsKept.trans ?_ (seatsKept_touch env _ _)
    exact SeatsKept.of_participants_eq rfl rfl
  · refine seatsKept_updateParticipant room id hid fun participant => ?_
    obtain ⟨hkind, hconnected, hnonce, hmedia⟩ := hkept participant
    refine ⟨⟨hid participant, hkind, fun _ => hconnected, fun _ => hnonce⟩, fun hready => ?_⟩
    rwa [RoomParticipant.voiceReady, hmedia] at hready

/-! ## Collaboration -/

variable {envelope : CollabEnvelope}

lemma CollabOp.seatsKept_envelope {op : CollabOp}
    (h : op.envelope env room = .ok (room', envelope)) : SeatsKept SameSeat room room' := by
  rcases CollabOp.room_of_envelope h with rfl | ⟨id, rfl⟩
  · exact SeatsKept.refl _
  · exact seatsKept_touch env room id

lemma CollabEnvelope.seatsKept_ingest {tracking : CollabTracking}
    (h : (envelope.ingest env room tracking).saved = some saved) :
    SeatsKept SameSeat room saved := by
  cases hnew : envelope.newEvent room (tracking.warm room).collabRegistry with
  | none =>
    obtain ⟨answer, -, hingest⟩ := CollabEnvelope.ingest_of_newEvent_eq_none env hnew
    rw [hingest] at h
    cases h
  | some event =>
    rw [CollabEnvelope.ingest_of_newEvent env hnew, appendCollabEvent] at h
    cases hsave : (room.appendMessage env
        (collabMessage envelope.sender event env.now)).saveRoom env with
    | none =>
      rw [hsave] at h
      cases h
    | some stored =>
      rw [hsave] at h
      obtain rfl := Option.some.inj h
      exact (seatsKept_appendMessage env room _).trans (seatsKept_saveRoom env _ hsave)

/-! ## Steps of a session -/

/-- What an operation that may move somebody makes of the Room it works on. -/
def SessionOp.move? (env : RoomEnv) (room : RoomRecord) : SessionOp → Option RoomRecord
  | .register request kind => (kind.register env room request).toOption
  | .membership op => if op.isAgentStream then none else op.apply env room
  | .media op => if op.movesSeat then op.apply env room else none
  | _ => none

/-- The Room that an operation creates where there is none. -/
def SessionOp.create? (env : RoomEnv) : SessionOp → Option RoomRecord
  | .register request kind => (kind.register env (RoomRecord.newRoom env) request).toOption
  | .agentCreateRoom request =>
    ((RoomRecord.newRoom env).registerAgent env request none).toOption
  | _ => none

namespace RoomSession

/-- The record that an operation stores after it moved somebody. -/
def moved? (env : RoomEnv) (s : RoomSession) (op : SessionOp) : Option RoomRecord :=
  match s.stored with
  | none => (op.create? env).bind (RoomRecord.saveRoom env)
  | some _ => ((s.activeRoom env).1.bind (op.move? env)).bind (RoomRecord.saveRoom env)

/-- What a step of a session does to the seats. -/
inductive SeatStep (env : RoomEnv) (s : RoomSession) (op : SessionOp) (s' : RoomSession) : Prop
  -- There is no Room afterwards: there was none, or it had expired.
  | vacant (hmoved : s.moved? env op = none) (hstored' : s'.stored = none)
    (hexpired : ∀ room, s.stored = some room → room.expiresAt ≤ env.now)
  -- Nobody moves.
  | kept {stored saved : RoomRecord} (hmoved : s.moved? env op = none)
    (hstored : s.stored = some stored) (hstored' : s'.stored = some saved)
    (hkept : SeatsKept SameSeat stored saved)
  -- The operation moves somebody in the Room it works on.
  | moved {stored room room' saved : RoomRecord} (hmoved : s.moved? env op = some saved)
    (hstored : s.stored = some stored) (hstored' : s'.stored = some saved)
    (hactive : (s.activeRoom env).1 = some room) (hmove : op.move? env room = some room')
    (hbefore : SeatsKept SameSeat stored room) (hafter : SeatsKept SameSeat room' saved)
  -- The operation creates a Room.
  | created {room' saved : RoomRecord} (hmoved : s.moved? env op = some saved)
    (hstored : s.stored = none) (hstored' : s'.stored = some saved)
    (hcreate : op.create? env = some room') (hafter : SeatsKept SameSeat room' saved)

variable {s : RoomSession} {op : SessionOp}

lemma Opens.seatsKept {opened : RoomRecord} (h : s.Opens env room opened) :
    ∃ stored, s.stored = some stored ∧ SeatsKept SameSeat stored room ∧
      SeatsKept SameSeat stored opened := by
  obtain ⟨stored, hstored, hload⟩ := h
  exact ⟨stored, hstored, seatsKept_loadRoom env stored hload⟩

lemma seatStep_self (hmoved : s.moved? env op = none) : SeatStep env s op s := by
  cases hstored : s.stored with
  | none => exact .vacant hmoved hstored fun room h => nomatch hstored.symm.trans h
  | some stored => exact .kept hmoved hstored hstored (SeatsKept.refl stored)

variable {s' : RoomSession}

lemma seatStep_of_activeRoom_none (h : s.activeRoom env = (none, s'))
    (hmoved : s.moved? env op = none) : SeatStep env s op s' := by
  cases hstored : s.stored with
  | none =>
    rw [activeRoom, hstored] at h
    obtain rfl := (Prod.mk.inj h).2
    exact seatStep_self hmoved
  | some stored =>
    rw [activeRoom, hstored] at h
    cases hload : loadRoom env stored with
    | none =>
      simp only [hload] at h
      obtain rfl := (Prod.mk.inj h).2
      exact seatStep_self hmoved
    | some loaded =>
      obtain ⟨room, opened⟩ := loaded
      simp only [hload] at h
      split at h
      next hexpired =>
        obtain rfl := (Prod.mk.inj h).2
        refine .vacant hmoved rfl fun record hrecord => ?_
        obtain rfl := Option.some.inj (hstored.symm.trans hrecord)
        rw [← (seatsKept_loadRoom env stored hload).1.expiresAt]
        exact of_decide_eq_true hexpired
      next => exact nomatch (Prod.mk.inj h).1

lemma seatStep_store {opened : RoomRecord} (hopens : s.Opens env room opened)
    (hmoved : s.moved? env op = none) (record : Option RoomRecord)
    (hrecord : ∀ saved, record = some saved → SeatsKept SameSeat room saved)
    (hstored' : s'.stored = record.or (some opened)) : SeatStep env s op s' := by
  obtain ⟨stored, hstored, hroom, hopened⟩ := hopens.seatsKept
  cases hcase : record with
  | none =>
    rw [hcase] at hstored'
    exact .kept hmoved hstored hstored' hopened
  | some saved =>
    rw [hcase] at hstored'
    exact .kept hmoved hstored hstored' (hroom.trans (hrecord saved hcase))

lemma seatStep_withRoom {handle : RoomRecord → Option RoomRecord}
    (hmoved : ∀ room s', s.activeRoom env = (some room, s') → op.move? env room = none →
      ∀ saved, handle room = some saved → SeatsKept SameSeat room saved)
    (hhandle : ∀ room room', op.move? env room = some room' →
      handle room = room'.saveRoom env) (hcreate : s.stored = none → op.create? env = none) :
    SeatStep env s op (s.withRoom env handle) := by
  unfold withRoom
  split
  next s' hactive =>
    refine seatStep_of_activeRoom_none hactive ?_
    cases hstored : s.stored with
    | none => simp [moved?, hstored, hcreate hstored]
    | some stored => simp [moved?, hstored, hactive]
  next room s' hactive =>
    obtain ⟨opened, hopens, rfl⟩ := opens_of_activeRoom hactive
    obtain ⟨stored, hstored, hroom, hopened⟩ := hopens.seatsKept
    have hdef : s.moved? env op = (op.move? env room).bind (RoomRecord.saveRoom env) := by
      simp [moved?, hstored, hactive]
    cases hmove : op.move? env room with
    | none =>
      exact seatStep_store hopens (by rw [hdef, hmove]; rfl) _
        (hmoved room _ hactive hmove) rfl
    | some room' =>
      rw [hmove, Option.bind_some] at hdef
      cases hsave : room'.saveRoom env with
      | none =>
        refine seatStep_store hopens (hdef.trans hsave) _ (fun saved hsaved => ?_) rfl
        rw [hhandle room room' hmove, hsave] at hsaved
        cases hsaved
      | some saved =>
        refine .moved (hdef.trans hsave) hstored ?_ (by rw [hactive]) hmove hroom
          (seatsKept_saveRoom env room' hsave)
        show (handle room).or (some opened) = some saved
        rw [hhandle room room' hmove, hsave, Option.some_or]

lemma seatStep_create (hstored : s.stored = none)
    (hstored' : s'.stored = (op.create? env).bind (RoomRecord.saveRoom env)) :
    SeatStep env s op s' := by
  have hdef : s.moved? env op = (op.create? env).bind (RoomRecord.saveRoom env) := by
    rw [moved?, hstored]
  cases hsaved : (op.create? env).bind (RoomRecord.saveRoom env) with
  | none =>
    exact .vacant (hdef.trans hsaved) (hstored'.trans hsaved)
      fun room h => nomatch hstored.symm.trans h
  | some saved =>
    obtain ⟨room', hcreate, hsave⟩ := Option.bind_eq_some_iff.mp hsaved
    exact .created (hdef.trans hsaved) hstored (hstored'.trans hsaved) hcreate
      (seatsKept_saveRoom env room' hsave)

lemma moved?_eq_none (hmove : ∀ room, op.move? env room = none)
    (hcreate : op.create? env = none) : s.moved? env op = none := by
  cases hstored : s.stored with
  | none => simp [moved?, hstored, hcreate]
  | some stored =>
    cases hactive : (s.activeRoom env).1 with
    | none => simp [moved?, hstored, hactive]
    | some room => simp [moved?, hstored, hactive, hmove]

lemma seatStep_runCollab (op : CollabOp) : SeatStep env s (.collab op) (s.runCollab env op) := by
  have hmoved : s.moved? env (.collab op) = none := moved?_eq_none (fun _ => rfl) rfl
  unfold runCollab
  split
  next s' hactive => exact seatStep_of_activeRoom_none hactive hmoved
  next room s' hactive =>
    obtain ⟨opened, hopens, rfl⟩ := opens_of_activeRoom hactive
    split
    next => exact seatStep_store hopens hmoved none (fun _ h => nomatch h) rfl
    next received envelope henvelope =>
      refine seatStep_store hopens hmoved _ (fun saved hsaved => ?_) rfl
      exact (CollabOp.seatsKept_envelope henvelope).trans
        (CollabEnvelope.seatsKept_ingest hsaved)

lemma seatStep_discardTaskAttachment (participantId token attachmentId taskRequestId : String) :
    SeatStep env s (.discardTaskAttachment participantId token attachmentId taskRequestId)
      (s.discardTaskAttachment env participantId token attachmentId taskRequestId) := by
  have hmoved : s.moved? env
      (.discardTaskAttachment participantId token attachmentId taskRequestId) = none :=
    moved?_eq_none (fun _ => rfl) rfl
  unfold discardTaskAttachment
  split
  next s' hactive => exact seatStep_of_activeRoom_none hactive hmoved
  next room s' hactive =>
    obtain ⟨opened, hopens, rfl⟩ := opens_of_activeRoom hactive
    have hnothing : ∀ saved, (none : Option RoomRecord) = some saved →
        SeatsKept SameSeat room saved := fun _ h => nomatch h
    split
    next => exact seatStep_store hopens hmoved none hnothing rfl
    next human _ =>
      split
      next => exact seatStep_store hopens hmoved none hnothing rfl
      next =>
        dsimp only
        split
        next => exact seatStep_store hopens hmoved none hnothing rfl
        next =>
          refine seatStep_store hopens hmoved _ (fun saved hsaved => ?_) rfl
          refine SeatsKept.trans ?_ (seatsKept_saveRoom env _ hsaved)
          refine SeatsKept.trans ?_ (seatsKept_touch env _ human.id)
          exact SeatsKept.of_participants_eq rfl rfl

lemma seatStep_readCollab : SeatStep env s .readCollab (s.readCollab env) := by
  have hmoved : s.moved? env .readCollab = none := moved?_eq_none (fun _ => rfl) rfl
  unfold readCollab
  split
  next s' hactive => exact seatStep_of_activeRoom_none hactive hmoved
  next room s' hactive =>
    obtain ⟨opened, hopens, rfl⟩ := opens_of_activeRoom hactive
    exact seatStep_store hopens hmoved none (fun _ h => nomatch h) rfl

lemma seatStep_cleanup (results : List MediaCloseResult) :
    SeatStep env s (.cleanup results) (s.cleanup env results) := by
  have hmoved : s.moved? env (.cleanup results) = none := moved?_eq_none (fun _ => rfl) rfl
  unfold cleanup
  split
  next => exact seatStep_self hmoved
  next stored hstored =>
    split
    next => exact seatStep_self hmoved
    next room opened hload =>
      refine seatStep_store ⟨stored, hstored, hload⟩ hmoved _ (fun saved hsaved => ?_) rfl
      refine SeatsKept.trans ?_ (seatsKept_saveRoom env _ hsaved)
      exact SeatsKept.of_participants_eq rfl rfl

/-- Every operation does one of these things to the seats. -/
lemma seatStep_step (env : RoomEnv) (s : RoomSession) (op : SessionOp) :
    SeatStep env s op (s.step env op) := by
  cases op with
  | register request kind =>
    show SeatStep env s _ (s.register env request kind)
    cases hstored : s.stored with
    | none =>
      refine seatStep_create hstored ?_
      simp [register, hstored, resetCollabTracking, store, SessionOp.create?]
    | some stored =>
      rw [register, hstored]
      refine seatStep_withRoom (fun room s' _ hmove saved hsaved => ?_) (fun room room' hmove => ?_)
        fun h => nomatch hstored.symm.trans h
      · obtain ⟨room', hregister, -⟩ := Option.bind_eq_some_iff.mp hsaved
        exact nomatch hmove.symm.trans hregister
      · show Option.bind _ (RoomRecord.saveRoom env) = _
        rw [show (kind.register env room request).toOption = some room' from hmove,
          Option.bind_some]
  | agentCreateRoom request =>
    show SeatStep env s _ (s.agentCreateRoom env request)
    cases hstored : s.stored with
    | none =>
      refine seatStep_create hstored ?_
      simp [agentCreateRoom, hstored, store, SessionOp.create?]
    | some stored =>
      rw [agentCreateRoom, hstored]
      exact seatStep_withRoom (fun _ _ _ _ _ h => nomatch h) (fun _ _ h => nomatch h)
        fun h => nomatch hstored.symm.trans h
  | membership op =>
    refine seatStep_withRoom (fun room s' _ hmove saved hsaved => ?_) (fun room room' hmove => ?_)
      fun _ => rfl
    · obtain ⟨room', happly, hsave⟩ := Option.bind_eq_some_iff.mp hsaved
      cases hstream : op.isAgentStream with
      | false => simp [SessionOp.move?, hstream, happly] at hmove
      | true =>
        exact (MembershipOp.seatsKept_apply hstream happly).trans
          (seatsKept_saveRoom env room' hsave)
    · simp only [SessionOp.move?] at hmove
      split at hmove
      · cases hmove
      · rw [hmove, Option.bind_some]
  | media op =>
    refine seatStep_withRoom (fun room s' _ hmove saved hsaved => ?_) (fun room room' hmove => ?_)
      fun _ => rfl
    · obtain ⟨room', happly, hsave⟩ := Option.bind_eq_some_iff.mp hsaved
      cases hmoves : op.movesSeat with
      | true => simp [SessionOp.move?, hmoves, happly] at hmove
      | false =>
        exact (MediaOp.seatsKept_apply hmoves happly).trans (seatsKept_saveRoom env room' hsave)
    · simp only [SessionOp.move?] at hmove
      split at hmove
      · rw [hmove, Option.bind_some]
      · cases hmove
  | conversation op =>
    refine seatStep_withRoom (fun room s' _ _ saved hsaved => ?_) (fun _ _ h => nomatch h)
      fun _ => rfl
    exact ConversationOp.seatsKept_run hsaved
  | collab op => exact seatStep_runCollab op
  | discardTaskAttachment participantId token attachmentId taskRequestId =>
    exact seatStep_discardTaskAttachment participantId token attachmentId taskRequestId
  | readCollab => exact seatStep_readCollab
  | cleanup results => exact seatStep_cleanup results
  | restart =>
    have hmoved : s.moved? env .restart = none := moved?_eq_none (fun _ => rfl) rfl
    cases hstored : s.stored with
    | none => exact .vacant hmoved hstored fun room h => nomatch hstored.symm.trans h
    | some stored => exact .kept hmoved hstored hstored (SeatsKept.refl stored)

end RoomSession

end Free4Chat
