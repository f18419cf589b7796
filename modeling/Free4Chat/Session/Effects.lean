import Free4Chat.Room.Frame
import Free4Chat.Session.Machine

/-!
# Effects of the Operations on the Log

What each operation of a session appends to the message log. Media operations leave the
conversation alone; membership operations append expiries of permission requests only; and only
collaboration ingestion appends collaboration messages.

* `LogExtendsBy`: extending the log by messages of a kind.
* `MediaOp.conversation_apply`: media operations leave the conversation alone.
* `MembershipOp.logExtendsBy_apply` and `ConversationOp.logExtendsBy_run`.
* `RoomSession.withRoom_cases`: what running a handler can do to a session.
-/

namespace Free4Chat

/-- The log is extended by messages of a kind. -/
def LogExtendsBy (P : RoomMessage → Prop) (room room' : RoomRecord) : Prop :=
  ∃ added, LogExtends room room' added ∧ ∀ message ∈ added, P message

namespace LogExtendsBy

variable {P : RoomMessage → Prop} {room room' room'' : RoomRecord}

lemma of_nil (h : LogExtends room room' []) : LogExtendsBy P room room' :=
  ⟨[], h, by simp⟩

lemma of_conversation (h : room'.conversation = room.conversation) : LogExtendsBy P room room' :=
  of_nil (LogExtends.of_conversation h)

section

variable (h : LogExtendsBy P room room')
include h

lemma conversation_right
    (heq : room''.conversation = room'.conversation) : LogExtendsBy P room room'' := by
  obtain ⟨added, hext, hP⟩ := h
  exact ⟨added, hext.trans_nil (LogExtends.of_conversation heq), hP⟩

lemma trans (h' : LogExtendsBy P room' room'') : LogExtendsBy P room room'' := by
  obtain ⟨added, hext, hP⟩ := h
  obtain ⟨added', hext', hP'⟩ := h'
  refine ⟨added ++ added', hext.trans hext', ?_⟩
  intro message hmem
  rcases List.mem_append.mp hmem with hmem | hmem
  · exact hP message hmem
  · exact hP' message hmem

lemma trans_saveRoom {env : RoomEnv} {saved : RoomRecord}
    (hsave : room'.saveRoom env = some saved) : LogExtendsBy P room saved :=
  h.trans (of_nil (RoomRecord.logExtends_saveRoom env hsave))

end

lemma appendMessage {env : RoomEnv} {message : RoomMessage}
    (h : P { message with sequence := room.nextMessageSequence + 1 }) :
    LogExtendsBy P room (room.appendMessage env message) :=
  ⟨_, room.logExtends_appendMessage env message, by simpa using h⟩

end LogExtendsBy

/-- A message is no collaboration message. -/
def NotCollab (message : RoomMessage) : Prop := collabEntry? message = none

lemma notCollab_of_collab_eq_none {message : RoomMessage} (h : message.collab = none) :
    NotCollab message := by
  simp [NotCollab, collabEntry?, h]

/-! ## Membership operations -/

namespace RoomRecord

variable (env : RoomEnv) (room : RoomRecord)

lemma logExtendsBy_removePermission (requestId : String) :
    LogExtendsBy NotCollab room (room.removePermission requestId) :=
  LogExtendsBy.of_nil (LogExtends.of_eq rfl rfl rfl)

lemma logExtendsBy_foldl_expirePermissionRequest (records : List PermissionRequestRecord) :
    LogExtendsBy NotCollab room (records.foldl (expirePermissionRequest env) room) := by
  induction records generalizing room with
  | nil => exact LogExtendsBy.of_conversation rfl
  | cons record records ih =>
    refine LogExtendsBy.trans ?_ (ih _)
    simp only [expirePermissionRequest]
    split
    · exact logExtendsBy_removePermission room _
    · exact (logExtendsBy_removePermission room _).trans
        (LogExtendsBy.appendMessage (notCollab_of_collab_eq_none rfl))

variable {room} in
lemma logExtendsBy_expirePermissionRequests {staged : RoomRecord}
    (h : staged.conversation = room.conversation) (departed : Option String) :
    LogExtendsBy NotCollab room (staged.expirePermissionRequests env departed) :=
  (LogExtendsBy.of_conversation h).trans (logExtendsBy_foldl_expirePermissionRequest env staged _)

lemma logExtendsBy_controlLeave (participant : RoomParticipant) :
    LogExtendsBy NotCollab room (room.controlLeave env participant) := by
  simp only [controlLeave]
  cases participant.kind with
  | agent =>
    exact (logExtendsBy_expirePermissionRequests env (room.conversation_stageDeparture env
      participant) (some participant.id)).conversation_right (by simp)
  | human => exact LogExtendsBy.of_conversation (by simp)

lemma logExtendsBy_agentLeave (agent : RoomParticipant) :
    LogExtendsBy NotCollab room (room.agentLeave env agent) := by
  have hstaged : ((room.stageDeparture env agent).stageProducerSubscription agent).conversation =
      room.conversation := by simp
  exact (logExtendsBy_expirePermissionRequests env hstaged (some agent.id)).conversation_right
    (by simp [agentLeave])

lemma logExtendsBy_expireParticipant (participant : RoomParticipant) :
    LogExtendsBy NotCollab room (room.expireParticipant env participant) := by
  have hstaged := room.conversation_stageExpired env participant
  simp only [expireParticipant]
  split_ifs
  · exact (logExtendsBy_expirePermissionRequests env hstaged
      (some participant.id)).conversation_right (by simp)
  all_goals exact LogExtendsBy.of_conversation (by simp)

lemma logExtendsBy_foldl_expireParticipant (expired : List RoomParticipant) :
    LogExtendsBy NotCollab room (expired.foldl (expireParticipant env) room) := by
  induction expired generalizing room with
  | nil => exact LogExtendsBy.of_conversation rfl
  | cons participant expired ih =>
    exact (logExtendsBy_expireParticipant env room participant).trans (ih _)

variable {room} in
lemma logExtendsBy_alarm {room' : RoomRecord} (h : room.alarm env = some room') :
    LogExtendsBy NotCollab room room' := by
  simp only [alarm] at h
  split at h
  · obtain rfl := Option.some.inj h
    exact ((logExtendsBy_expirePermissionRequests env rfl none).trans
      (logExtendsBy_foldl_expireParticipant env _ _)).conversation_right rfl
  · exact absurd h (by simp)

end RoomRecord

lemma MembershipOp.logExtendsBy_apply {env : RoomEnv} {room room' : RoomRecord}
    {op : MembershipOp} (h : op.apply env room = some room') :
    LogExtendsBy NotCollab room room' := by
  cases op with
  | connectHuman participantId token connectionNonce =>
    simp only [apply, Except.toOption_eq_some, RoomRecord.connectHuman, Except.bind_eq_ok,
      Except.pure_eq_ok] at h
    obtain ⟨human, -, rfl⟩ := h
    exact LogExtendsBy.of_conversation rfl
  | closeSocket participantId connectionNonce =>
    simp only [apply, RoomRecord.closeSocket] at h
    split at h
    · exact absurd h (by simp)
    · split at h
      · exact absurd h (by simp)
      · obtain rfl := Option.some.inj h
        exact LogExtendsBy.of_conversation rfl
  | agentEventConnection participantId token connectionNonce =>
    simp only [apply, Except.toOption_eq_some, RoomRecord.agentEventConnection, Except.bind_eq_ok,
      Except.pure_eq_ok] at h
    obtain ⟨agent, -, -, -, rfl⟩ := h
    exact LogExtendsBy.of_conversation rfl
  | agentEventHeartbeat participantId connectionNonce =>
    simp only [apply, RoomRecord.agentEventHeartbeat, Option.map_eq_some_iff] at h
    obtain ⟨agent, -, rfl⟩ := h
    exact LogExtendsBy.of_conversation rfl
  | agentEventClose participantId connectionNonce =>
    simp only [apply, RoomRecord.agentEventClose, Option.map_eq_some_iff] at h
    obtain ⟨agent, -, rfl⟩ := h
    exact LogExtendsBy.of_conversation rfl
  | humanLeave participantId token =>
    simp only [apply, Option.map_eq_some_iff] at h
    obtain ⟨human, -, rfl⟩ := h
    exact LogExtendsBy.of_conversation (by simp [RoomRecord.humanLeave])
  | controlLeave participantId token =>
    simp only [apply, Option.map_eq_some_iff] at h
    obtain ⟨participant, -, rfl⟩ := h
    exact room.logExtendsBy_controlLeave env participant
  | agentLeave participantId token =>
    simp only [apply, Option.map_eq_some_iff] at h
    obtain ⟨agent, -, rfl⟩ := h
    exact room.logExtendsBy_agentLeave env agent
  | alarm => exact RoomRecord.logExtendsBy_alarm env h

/-! ## Media operations -/

lemma HumanMediaOp.conversation_apply {env : RoomEnv} {room room' : RoomRecord}
    {human : RoomParticipant} {op : HumanMediaOp} (h : op.apply env room human = some room') :
    room'.conversation = room.conversation := by
  cases op with
  | mute muted | clientUnpublish trackName | datachannelReady ready | liveTranscriptStop =>
    obtain rfl := Option.some.inj h
    rfl
  | meetingNotesStop =>
    obtain rfl := Option.some.inj h
    simp only [RoomRecord.meetingNotesStop, RoomRecord.conversation_stageMediaGrantRevocations]
    rfl
  | liveTranscriptStart runtimeHostId =>
    simp only [apply, Option.join_eq_some_iff, Except.toOption_eq_some,
      RoomRecord.liveTranscriptStart] at h
    split_ifs at h <;> simp only [Except.ok.injEq, Option.some.injEq, reduceCtorEq] at h
    obtain rfl := h
    rfl
  | meetingNotesStart agentParticipantId =>
    simp only [apply, Option.join_eq_some_iff, Except.toOption_eq_some,
      RoomRecord.meetingNotesStart, Except.bind_eq_ok] at h
    obtain ⟨transition, -, h⟩ := h
    split_ifs at h <;> simp only [Except.pure_eq_ok, Option.some.injEq, reduceCtorEq] at h
    obtain rfl := h
    simp only [RoomRecord.conversation_stageMediaGrantRevocations]
    rfl
  | agentVoiceReady agentParticipantId sessionId trackName =>
    simp only [apply, Option.join_eq_some_iff, Except.toOption_eq_some,
      RoomRecord.agentVoiceReady, Except.bind_eq_ok] at h
    obtain ⟨agent, -, -, -, media, -, h⟩ := h
    split_ifs at h <;> simp only [Except.pure_eq_ok, Option.some.injEq, reduceCtorEq] at h
    obtain rfl := h
    rfl
  | agentVoiceSet agentParticipantId enabled =>
    simp only [apply, Except.toOption_eq_some, RoomRecord.agentVoiceSet, Except.bind_eq_ok,
      Except.pure_eq_ok] at h
    obtain ⟨transition, -, rfl⟩ := h
    simp only [RoomRecord.conversation_stageMediaGrantRevocations]
    rfl

lemma MediaOp.conversation_apply {env : RoomEnv} {room room' : RoomRecord} {op : MediaOp}
    (h : op.apply env room = some room') : room'.conversation = room.conversation := by
  cases op with
  | human participantId token op =>
    simp only [apply, Option.bind_eq_some_iff] at h
    obtain ⟨human, -, h⟩ := h
    exact HumanMediaOp.conversation_apply h
  | updateRuntimeHost participantId token host =>
    simp only [apply, Except.toOption_eq_some, RoomRecord.agentUpdateRuntimeHost,
      Except.bind_eq_ok, Except.pure_eq_ok] at h
    obtain ⟨agent, -, rfl⟩ := h
    simp only [RoomRecord.conversation_touch,
      RoomRecord.conversation_garbageCollectRuntimeHostAuthorization,
      RoomRecord.conversation_stageMediaGrantRevocations]
    rfl
  | attach participantId token sessionId sessionId_ne =>
    simp only [apply, Except.toOption_eq_some, RoomRecord.agentMediaAttach,
      Except.bind_eq_ok] at h
    obtain ⟨agent, -, -, -, h⟩ := h
    split_ifs at h <;> obtain rfl := Except.pure_eq_ok.mp h <;> simp
  | trackSubscribed participantId token sessionId mids purpose =>
    simp only [apply, Except.toOption_eq_some, RoomRecord.agentTrackSubscribed,
      Except.bind_eq_ok, Except.pure_eq_ok] at h
    obtain ⟨agent, -, -, -, -, -, media, -, -, -, -, -, rfl⟩ := h
    rfl
  | cleanupPending sessionId mids =>
    simp only [apply, Except.toOption_eq_some, RoomRecord.agentMediaCleanupPending] at h
    split_ifs at h
    obtain rfl := Except.ok.inj h
    rfl
  | reconnect participantId token sessionId newSessionId newSessionId_ne =>
    simp only [apply, Except.toOption_eq_some, RoomRecord.reconnect, Except.bind_eq_ok,
      Except.pure_eq_ok] at h
    obtain ⟨participant, -, -, -, rfl⟩ := h
    rfl
  | publish participantId token sessionId track =>
    simp only [apply, Except.toOption_eq_some, RoomRecord.publish, Except.bind_eq_ok,
      Except.pure_eq_ok] at h
    obtain ⟨participant, -, -, -, -, -, rfl⟩ := h
    rfl
  | trackPublished participantId token sessionId mid trackName announce =>
    simp only [apply, Except.toOption_eq_some, RoomRecord.agentTrackPublished,
      Except.bind_eq_ok, Except.pure_eq_ok] at h
    obtain ⟨agent, -, -, -, -, -, media, -, -, -, -, -, rfl⟩ := h
    rfl
  | trackActive participantId token sessionId trackName =>
    simp only [apply, Option.join_eq_some_iff, Except.toOption_eq_some,
      RoomRecord.agentTrackActive, Except.bind_eq_ok] at h
    obtain ⟨agent, -, -, -, -, -, media, -, h⟩ := h
    split_ifs at h <;> simp only [Except.pure_eq_ok, Option.some.injEq, reduceCtorEq] at h
    all_goals
      obtain rfl := h
      rfl
  | unpublish participantId token trackName =>
    simp only [apply, Except.toOption_eq_some, RoomRecord.unpublish, Except.bind_eq_ok,
      Except.pure_eq_ok] at h
    obtain ⟨participant, -, -, -, rfl⟩ := h
    rfl

/-! ## Conversation operations -/

namespace RoomRecord

variable {env : RoomEnv} {room saved : RoomRecord} {participantId token : String}

lemma logExtendsBy_agentSendPermission {request : JsValue}
    (h : room.agentSendPermission env participantId token request = .ok (some saved)) :
    LogExtendsBy NotCollab room saved := by
  obtain ⟨agent, current, committed, -, hcommit, h⟩ := agentSendPermission_cases h
  have hcurrent : LogExtendsBy NotCollab room current := by
    rcases commitPermissionExpirations_cases hcommit with ⟨rfl, -⟩ | ⟨hsave, -⟩
    · exact LogExtendsBy.of_conversation rfl
    · exact (logExtendsBy_expirePermissionRequests env
        (room.conversation_touch env agent.id) none).trans_saveRoom hsave
  rcases h with h | ⟨answered, hanswered, hsave⟩
  · rcases commitPermissionExpirations_cases hcommit with ⟨-, rfl⟩ | ⟨-, rfl⟩
    · exact absurd h (by simp)
    · obtain rfl := Option.some.inj h
      exact hcurrent
  · refine hcurrent.trans (LogExtendsBy.trans_saveRoom ?_ hsave)
    rcases hanswered with h | h
    · obtain ⟨validated, -, -, -, -, rfl⟩ := ingestPermissionRequest_eq_recorded h
      exact (LogExtendsBy.appendMessage (notCollab_of_collab_eq_none rfl)).trans
        (LogExtendsBy.of_nil (LogExtends.of_eq rfl rfl rfl))
    · obtain ⟨existing, -, -, rfl⟩ := ingestPermissionRequest_eq_replayed h
      exact (LogExtendsBy.appendMessage (notCollab_of_collab_eq_none rfl)).trans
        (LogExtendsBy.of_nil (LogExtends.of_eq rfl rfl rfl))

lemma logExtendsBy_ingestPermissionResponse {human : RoomParticipant}
    {requestId selectedOptionId : String} {room' : RoomRecord}
    (h : (room.ingestPermissionResponse env human requestId selectedOptionId).1 = some room') :
    LogExtendsBy NotCollab room room' := by
  have hexpire : ∀ departed, LogExtendsBy NotCollab room
      (room.expirePermissionRequests env departed) :=
    logExtendsBy_expirePermissionRequests env rfl
  simp only [ingestPermissionResponse] at h
  split at h
  · exact absurd h (by simp)
  · split_ifs at h
    · obtain rfl := Option.some.inj h
      exact hexpire _
    · obtain rfl := Option.some.inj h
      exact hexpire _
    · obtain rfl := Option.some.inj h
      exact (logExtendsBy_removePermission room _).trans
        (LogExtendsBy.appendMessage (notCollab_of_collab_eq_none rfl))

lemma logExtends_attachmentUpload {headers : AttachmentHeaders}
    {upload : AttachmentUpload} {id : String} {byteLength : ℕ} {room' : RoomRecord}
    (hstart : room.attachmentUploadStart participantId token headers = .ok upload)
    (hfinish : upload.finish env id byteLength = .ok room') : LogExtends room room' [] := by
  obtain rfl := room_of_attachmentUploadStart hstart
  simp only [AttachmentUpload.finish] at hfinish
  split_ifs at hfinish
  obtain rfl := Except.ok.inj hfinish
  refine ⟨by simp [touch, updateParticipant], by simp [touch, updateParticipant],
    List.Pairwise.nil, by simp, ?_, fun hbound => hbound⟩
  exact Nat.le_succ _

end RoomRecord

/-- What an operation on the conversation saves. -/
lemma ConversationOp.run_cases {env : RoomEnv} {room saved : RoomRecord} {op : ConversationOp}
    (h : op.run env room = some saved) :
    (∃ participantId token request,
        room.agentSendPermission env participantId token request = .ok (some saved)) ∨
      ∃ staged, staged.saveRoom env = some saved ∧
        ((∃ id, staged = room.touch env id ∨ ∃ message, message.collab = none ∧
            staged = (room.touch env id).appendMessage env message) ∨
          (∃ human requestId selectedOptionId, ((room.touch env human.id).ingestPermissionResponse
            env human requestId selectedOptionId).1 = some staged) ∨
          (∃ participantId token headers upload id byteLength,
            room.attachmentUploadStart participantId token headers = .ok upload ∧
              upload.finish env id byteLength = .ok staged) ∨
          ∃ id f hid, staged = room.updateParticipant id f hid ∧ ∀ participant,
            (f participant).kind = participant.kind ∧
              (f participant).connected = participant.connected ∧
              (f participant).connectionNonce = participant.connectionNonce ∧
              (f participant).media = participant.media) := by
  cases op with
  | humanText participantId token text targets taskRequestId =>
    simp only [run, Option.bind_eq_bind, Option.bind_eq_some_iff, Except.toOption_eq_some,
      RoomRecord.appendHumanText, Except.bind_eq_ok, Except.pure_eq_ok] at h
    obtain ⟨human, -, appended, ⟨task, -, resolved, -, rfl⟩, hsave⟩ := h
    exact Or.inr ⟨_, hsave, Or.inl ⟨_, Or.inr ⟨_, rfl, rfl⟩⟩⟩
  | agentText participantId token text targets taskRequestId =>
    simp only [run, Option.bind_eq_bind, Option.bind_eq_some_iff, Except.toOption_eq_some,
      RoomRecord.agentSendText, Except.bind_eq_ok, Except.pure_eq_ok] at h
    obtain ⟨appended, ⟨agent, -, -, -, task, -, resolved, -, rfl⟩, hsave⟩ := h
    exact Or.inr ⟨_, hsave, Or.inl ⟨_, Or.inr ⟨_, rfl, rfl⟩⟩⟩
  | action participantId token actionType =>
    simp only [run, Option.bind_eq_bind, Option.bind_eq_some_iff, Except.toOption_eq_some,
      RoomRecord.appendAction] at h
    obtain ⟨human, -, appended, happend, hsave⟩ := h
    split_ifs at happend
    obtain rfl := Except.ok.inj happend
    exact Or.inr ⟨_, hsave, Or.inl ⟨_, Or.inr ⟨_, rfl, rfl⟩⟩⟩
  | sendPermission participantId token request =>
    simp only [run, Option.join_eq_some_iff, Except.toOption_eq_some] at h
    exact Or.inl ⟨_, _, _, h⟩
  | permissionResponse participantId token requestId selectedOptionId =>
    simp only [run, Option.bind_eq_bind, Option.bind_eq_some_iff, Except.toOption_eq_some,
      RoomRecord.permissionResponse] at h
    obtain ⟨human, -, answered, hanswer, hsave⟩ := h
    split_ifs at hanswer
    exact Or.inr ⟨_, hsave, Or.inr (Or.inl ⟨_, _, _, hanswer⟩)⟩
  | surfaceUpload participantId token mimeType declaredSize snapshotId byteLength =>
    simp only [run, Option.bind_eq_bind, Option.bind_eq_some_iff, Except.toOption_eq_some,
      RoomRecord.surfaceUploadStart, SurfaceUpload.finish, Except.bind_eq_ok,
      Except.pure_eq_ok] at h
    obtain ⟨upload, ⟨agent, -, rfl⟩, published, ⟨-, -, rfl⟩, hsave⟩ := h
    exact Or.inr ⟨_, hsave, Or.inr (Or.inr (Or.inr ⟨_, _, _, rfl, fun _ => ⟨rfl, rfl, rfl, rfl⟩⟩))⟩
  | attachmentUpload participantId token headers id byteLength =>
    simp only [run, Option.bind_eq_bind, Option.bind_eq_some_iff, Except.toOption_eq_some] at h
    obtain ⟨upload, hstart, attached, hfinish, hsave⟩ := h
    exact Or.inr ⟨_, hsave, Or.inr (Or.inr (Or.inl ⟨_, _, _, _, _, _, hstart, hfinish⟩))⟩
  | clearSurface participantId token | attachDataTransport participantId token sessionId ready =>
    simp only [run, Option.bind_eq_bind, Option.bind_eq_some_iff] at h
    obtain ⟨agent, -, hsave⟩ := h
    exact Or.inr ⟨_, hsave, Or.inr (Or.inr (Or.inr ⟨_, _, _, rfl, fun _ => ⟨rfl, rfl, rfl, rfl⟩⟩))⟩
  | heartbeat participantId token =>
    simp only [run, Option.bind_eq_bind, Option.bind_eq_some_iff] at h
    obtain ⟨participant, -, hsave⟩ := h
    exact Or.inr ⟨_, hsave, Or.inl ⟨_, Or.inl rfl⟩⟩

lemma ConversationOp.logExtendsBy_run {env : RoomEnv} {room saved : RoomRecord}
    {op : ConversationOp} (h : op.run env room = some saved) :
    LogExtendsBy NotCollab room saved := by
  obtain ⟨_, _, _, hsent⟩ | ⟨staged, hsave, hstaged⟩ := run_cases h
  · exact RoomRecord.logExtendsBy_agentSendPermission hsent
  refine LogExtendsBy.trans_saveRoom ?_ hsave
  have htouch : ∀ id, LogExtendsBy NotCollab room (room.touch env id) := fun id =>
    LogExtendsBy.of_conversation (room.conversation_touch env id)
  obtain ⟨id, rfl | ⟨message, hmessage, rfl⟩⟩ | ⟨human, _, _, hanswer⟩ |
    ⟨_, _, _, _, _, _, hstart, hfinish⟩ | ⟨_, _, _, rfl, -⟩ := hstaged
  · exact htouch id
  · exact (htouch id).trans (LogExtendsBy.appendMessage (notCollab_of_collab_eq_none hmessage))
  · exact (htouch human.id).trans (RoomRecord.logExtendsBy_ingestPermissionResponse hanswer)
  · exact LogExtendsBy.of_nil (RoomRecord.logExtends_attachmentUpload hstart hfinish)
  · exact LogExtendsBy.of_conversation rfl

/-! ## Collaboration -/

/-- An operation that brings an envelope does no more to the Room than to touch a participant. -/
lemma CollabOp.room_of_envelope {env : RoomEnv} {op : CollabOp} {room room' : RoomRecord}
    {envelope : CollabEnvelope} (h : op.envelope env room = .ok (room', envelope)) :
    room' = room ∨ ∃ id, room' = room.touch env id := by
  cases op with
  | agentSend participantId token event generatedRequestId =>
    simp only [CollabOp.envelope, agentSendCollab, Except.bind_eq_ok, Except.pure_eq_ok,
      Prod.mk.injEq] at h
    obtain ⟨agent, -, rfl, -⟩ := h
    exact Or.inr ⟨_, rfl⟩
  | humanRequest participantId token target requestId summary attachmentIds generatedRequestId =>
    simp only [CollabOp.envelope, humanCollabRequest, Except.bind_eq_ok, Except.pure_eq_ok,
      Prod.mk.injEq] at h
    obtain ⟨human, -, agent, -, -, -, references, -, pinned, -, rfl, -⟩ := h
    exact Or.inr ⟨_, rfl⟩
  | humanResponse participantId token decision requestId summary =>
    simp only [CollabOp.envelope, humanCollabResponse, Except.bind_eq_ok, Except.pure_eq_ok,
      Prod.mk.injEq] at h
    obtain ⟨human, -, -, -, rfl, -⟩ := h
    exact Or.inr ⟨_, rfl⟩
  | humanResult participantId token status requestId summary =>
    simp only [CollabOp.envelope, humanCollabResult, Except.bind_eq_ok, Except.pure_eq_ok,
      Prod.mk.injEq] at h
    obtain ⟨human, -, -, -, -, -, -, -, rfl, -⟩ := h
    exact Or.inr ⟨_, rfl⟩
  | sessionContinue human taskRequestId target summary attachmentIds =>
    simp only [CollabOp.envelope, handleAgentSessionResult, Except.bind_eq_ok, Except.pure_eq_ok,
      Prod.mk.injEq] at h
    obtain ⟨human, -, rfl, -⟩ := h
    exact Or.inl rfl

lemma CollabOp.conversation_envelope {env : RoomEnv} {op : CollabOp} {room room' : RoomRecord}
    {envelope : CollabEnvelope} (h : op.envelope env room = .ok (room', envelope)) :
    room'.conversation = room.conversation := by
  rcases room_of_envelope h with rfl | ⟨id, rfl⟩
  · rfl
  · exact room.conversation_touch env id

lemma CollabOp.kind_of_envelope_response {env : RoomEnv} {op : CollabOp}
    {room room' : RoomRecord} {responder : RoomParticipant} {input : JsValue}
    {generatedRequestId : String}
    (h : op.envelope env room = .ok (room', .response responder input generatedRequestId)) :
    parseCollabKind (input.get "kind") ≠ some .request := by
  cases op with
  | agentSend participantId token event generatedRequestId =>
    simp only [CollabOp.envelope, agentSendCollab, Except.bind_eq_ok, Except.pure_eq_ok,
      Prod.mk.injEq] at h
    obtain ⟨agent, -, -, h⟩ := h
    split at h
    · cases h
    · rename_i hkind
      obtain ⟨-, rfl, -⟩ := CollabEnvelope.response.inj h
      intro hrequest
      unfold parseCollabKind at hrequest
      split at hrequest <;> simp_all
  | humanRequest participantId token target requestId summary attachmentIds generatedRequestId =>
    simp only [CollabOp.envelope, humanCollabRequest, Except.bind_eq_ok, Except.pure_eq_ok,
      Prod.mk.injEq, reduceCtorEq, and_false, exists_false] at h
  | humanResponse participantId token decision requestId summary =>
    simp only [CollabOp.envelope, humanCollabResponse, Except.bind_eq_ok, Except.pure_eq_ok,
      Except.rejectWhen_eq_ok, Prod.mk.injEq, CollabEnvelope.response.injEq] at h
    obtain ⟨human, -, -, hdecision, -, -, rfl, -⟩ := h
    intro hrequest
    exact hdecision (by simp_all [JsValue.get])
  | humanResult participantId token status requestId summary =>
    simp only [CollabOp.envelope, humanCollabResult, Except.bind_eq_ok, Except.pure_eq_ok,
      Except.rejectWhen_eq_ok, Prod.mk.injEq, CollabEnvelope.response.injEq] at h
    obtain ⟨human, -, -, hstatus, -, -, -, -, -, -, rfl, -⟩ := h
    intro hrequest
    exact hstatus (by simp_all [JsValue.get])
  | sessionContinue human taskRequestId target summary attachmentIds =>
    simp only [CollabOp.envelope, handleAgentSessionResult, Except.bind_eq_ok, Except.pure_eq_ok,
      Prod.mk.injEq, reduceCtorEq, and_false, exists_false] at h

end Free4Chat
