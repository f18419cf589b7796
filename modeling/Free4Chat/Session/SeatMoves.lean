import Free4Chat.Session.SeatEffects

/-!
# Seats After Joining and Leaving

Who is in a Room after the operations that move somebody, given who was there before.

* `Remaining`: the seats of a record without those of the participants who left.
* `Stays`: what a Human keeps that neither leaves nor loses its connection.
* `values_register`: a participant that joins takes a new seat.
* `remaining_humanLeave`, `remaining_controlLeave`, `remaining_agentLeave` and `remaining_alarm`:
  leaving takes nobody else's seat.
* `seatsKept_agentVoiceReady`: a report that an Agent's voice is received moves nobody.
* `voiceReady_clearAgentVoiceReadiness`: what the source does about readiness when a connection of
  a Human is lost.
-/

namespace Free4Chat

variable {env : RoomEnv} {room room' : RoomRecord}

/-- The participants of a record keep their seats in another one, without those who left. -/
def Remaining (gone : RoomParticipant → Bool) (room room' : RoomRecord) : Prop :=
  List.Forall₂ SameSeat (room.participants.values.filter fun participant => !gone participant)
    room'.participants.values

namespace Remaining

variable {gone : RoomParticipant → Bool}

lemma forall₂_filter {p q : RoomParticipant → Bool} {before after : List RoomParticipant}
    (hpq : ∀ a b, SameSeat a b → p a = q b) (h : List.Forall₂ SameSeat before after) :
    List.Forall₂ SameSeat (before.filter p) (after.filter q) :=
  List.rel_filter (fun a b hseat => Bool.eq_iff_iff.mp (hpq a b hseat)) h

lemma of_forall₂ (h : List.Forall₂ SameSeat room.participants.values
    room'.participants.values) : Remaining (fun _ => false) room room' := by
  show List.Forall₂ SameSeat (room.participants.values.filter fun _ => true) _
  rw [List.filter_true]
  exact h

lemma exists_before (h : Remaining gone room room') {after : RoomParticipant}
    (hafter : after ∈ room'.participants.values) :
    ∃ before ∈ room.participants.values, gone before = false ∧ SameSeat before after := by
  obtain ⟨before, hbefore, hseat⟩ := SeatsKept.exists_of_forall₂ h hafter
  obtain ⟨hmem, hstays⟩ := List.mem_filter.mp hbefore
  rw [Bool.not_eq_true'] at hstays
  exact ⟨before, hmem, hstays, hseat⟩

lemma exists_after (h : Remaining gone room room') {before : RoomParticipant}
    (hbefore : before ∈ room.participants.values) (hstays : gone before = false) :
    ∃ after ∈ room'.participants.values, SameSeat before after := by
  have hmem : before ∈ room.participants.values.filter fun participant => !gone participant := by
    rw [List.mem_filter, hstays]
    exact ⟨hbefore, rfl⟩
  exact SeatsKept.exists_of_forall₂ (List.Forall₂.flip h) hmem

end Remaining

/-- A participant that is still there, and still connected if it was. -/
structure Stays (before after : RoomParticipant) : Prop where
  id : after.id = before.id
  kind : after.kind = before.kind
  connected : before.connected = true → after.connected = true

lemma Stays.trans {first second third : RoomParticipant} (h : Stays first second)
    (h' : Stays second third) : Stays first third where
  id := h'.id.trans h.id
  kind := h'.kind.trans h.kind
  connected hconnected := h'.connected (h.connected hconnected)

lemma SamePlace.stays {human other : RoomParticipant} (h : SamePlace human other)
    (hkind : human.kind = .human) : Stays human other :=
  ⟨h.id, h.kind, fun hconnected => (h.connected hkind).trans hconnected⟩

/-! ## Joining -/

lemma values_register {kind : RegistrationKind} {request : Registration}
    (h : kind.register env room request = .ok room') :
    ∃ participant, participant.id = request.id ∧ participant.voiceReady = false ∧
      participant.id ∉ room.participants.keys ∧
      room.participants.size < MAX_ROOM_PARTICIPANTS ∧
      room'.participants.values = room.participants.values ++ [participant] := by
  have hadd : ∀ {participant added}, room.addParticipant participant = .ok added →
      participant.id ∉ room.participants.keys ∧
        room.participants.size < MAX_ROOM_PARTICIPANTS ∧
        added.participants.values = room.participants.values ++ [participant] := by
    intro participant added hadded
    unfold RoomRecord.addParticipant at hadded
    split_ifs at hadded with hcontains hfull
    obtain rfl := Except.ok.inj hadded
    have hnew : participant.id ∉ room.participants.keys := by
      rw [KeyedMap.mem_keys_iff]
      exact hcontains
    exact ⟨hnew, Nat.lt_of_not_le hfull, KeyedMap.values_set_of_notMem hnew⟩
  cases kind with
  | human sessionId sessionId_ne =>
    simp only [RegistrationKind.register, RoomRecord.registerHuman, Except.bind_eq_ok,
      Except.pure_eq_ok] at h
    obtain ⟨added, hadded, rfl⟩ := h
    obtain ⟨hnew, hsize, hvalues⟩ := hadd hadded
    exact ⟨_, rfl, rfl, hnew, hsize, hvalues⟩
  | agent runtimeHost =>
    simp only [RegistrationKind.register, RoomRecord.registerAgent, Except.bind_eq_ok,
      Except.pure_eq_ok] at h
    obtain ⟨added, hadded, rfl⟩ := h
    obtain ⟨hnew, hsize, hvalues⟩ := hadd hadded
    exact ⟨_, rfl, rfl, hnew, hsize, hvalues⟩

lemma exists_register_of_create {op : SessionOp} (h : op.create? env = some room) : ∃ request kind,
      RegistrationKind.register kind env (RoomRecord.newRoom env) request = .ok room := by
  cases op with
  | register request kind => exact ⟨request, kind, Except.toOption_eq_some.mp h⟩
  | agentCreateRoom request => exact ⟨request, .agent none, Except.toOption_eq_some.mp h⟩
  | _ => cases h

/-! ## Readiness -/

lemma seatsKept_clearAgentVoiceReadiness :
    SeatsKept SameSeat room room.clearAgentVoiceReadiness := by
  refine SeatsKept.of_map rfl (fun participant _ => ?_) rfl
  split
  · refine ⟨⟨rfl, rfl, fun _ => rfl, fun _ => rfl⟩, fun hready => ?_⟩
    cases hmedia : participant.media with
    | none | some media => simp [RoomParticipant.voiceReady, hmedia] at hready
  · exact SameSeat.refl participant

lemma voiceReady_clearAgentVoiceReadiness {participant : RoomParticipant}
    (hmem : participant ∈ room.clearAgentVoiceReadiness.participants.values)
    (hkind : participant.kind = .agent) : participant.voiceReady = false := by
  obtain ⟨before, -, rfl⟩ := List.mem_map.mp hmem
  by_cases hagent : before.kind = .agent
  · rw [if_pos hagent]
    cases before.media with
    | none | some media => rfl
  · rw [if_neg hagent] at hkind
    exact absurd hkind hagent

/-- A participant that stays when an Agent is reported, whose voice is found ready only if it was or
it is the one that is reported. -/
structure StaysReported (agentId : String) (before after : RoomParticipant) : Prop where
  stays : Stays before after
  voiceReady : after.voiceReady = true → before.voiceReady = true ∨ after.id = agentId

namespace StaysReported

variable {agentId : String}

lemma trans {first second third : RoomParticipant} (h : StaysReported agentId first second)
    (h' : StaysReported agentId second third) : StaysReported agentId first third where
  stays := h.stays.trans h'.stays
  voiceReady hready := by
    rcases h'.voiceReady hready with hready | hid
    · rcases h.voiceReady hready with hready | hid
      · exact Or.inl hready
      · exact Or.inr (h'.stays.id.trans hid)
    · exact Or.inr hid

lemma of_touch (env : RoomEnv) (room : RoomRecord) (participantId : String) :
    SeatsKept (StaysReported agentId) room (room.touch env participantId) :=
  seatsKept_updateParticipant_of room (fun _ => ⟨⟨rfl, rfl, fun h => h⟩, Or.inl⟩) participantId _
    fun _ _ _ => ⟨⟨rfl, rfl, fun h => h⟩, Or.inl⟩

end StaysReported

lemma seatsKept_agentVoiceReady {human : RoomParticipant} {agentParticipantId sessionId
    trackName : String} (h : room.agentVoiceReady env human agentParticipantId sessionId trackName =
      .ok (some room')) : SeatsKept (StaysReported agentParticipantId) room room' := by
  simp only [RoomRecord.agentVoiceReady, Except.bind_eq_ok, Except.require_eq_ok] at h
  obtain ⟨agent, hagent, -, -, media, -, h⟩ := h
  split_ifs at h <;> simp only [Except.pure_eq_ok, Option.some.injEq, reduceCtorEq] at h
  obtain rfl := h
  have hid : agent.id = agentParticipantId :=
    KeyedMap.key_of_get? (Option.filter_eq_some_iff.mp hagent).1
  have hreported : SeatsKept (StaysReported agentParticipantId) (room.touch env human.id)
      ((room.touch env human.id).updateMedia agent.id fun media =>
        { media with agentVoiceReady := some true }) :=
    seatsKept_updateParticipant_of _ (fun _ => ⟨⟨rfl, rfl, fun h => h⟩, Or.inl⟩) agent.id _
      fun participant _ hpid => ⟨⟨rfl, rfl, fun h => h⟩, fun _ => Or.inr (hpid.trans hid)⟩
  have htrans : ∀ a b c, StaysReported agentParticipantId a b →
      StaysReported agentParticipantId b c → StaysReported agentParticipantId a c :=
    fun _ _ _ => StaysReported.trans
  exact ((StaysReported.of_touch env room human.id).trans_of htrans hreported).trans_of htrans
    (StaysReported.of_touch env _ agent.id)

/-! ## Leaving -/

lemma remaining_removeParticipant {staged : RoomRecord}
    (h : List.Forall₂ SameSeat room.participants.values staged.participants.values)
    (participantId : String) : Remaining (fun participant => participant.id = participantId) room
      (staged.removeParticipant participantId) := by
  refine Remaining.forall₂_filter (fun before after hseat => ?_) h
  show (!decide (before.id = participantId)) = decide (Keyed.key after ≠ participantId)
  rw [RoomParticipant.key_eq, hseat.place.id, decide_not]

lemma Remaining.garbageCollect {gone : RoomParticipant → Bool} (h : Remaining gone room room') :
    Remaining gone room (room'.garbageCollectRuntimeHostAuthorization env) :=
  SameSeat.forall₂_trans h
    (seatsKept_garbageCollectRuntimeHostAuthorization env room').participants

lemma remaining_humanLeave (human : RoomParticipant) :
    Remaining (fun participant => participant.id = human.id) room (room.humanLeave env human) :=
  Remaining.garbageCollect (remaining_removeParticipant
    seatsKept_clearAgentVoiceReadiness.participants human.id)

lemma remaining_controlLeave_human {human : RoomParticipant} (hkind : human.kind = .human) :
    Remaining (fun participant => participant.id = human.id) room
      (room.controlLeave env human) := by
  have hleft : Remaining (fun participant => participant.id = human.id) room
      (((room.stageDeparture env human).removeParticipant
        human.id).garbageCollectRuntimeHostAuthorization env) :=
    Remaining.garbageCollect (remaining_removeParticipant
      (seatsKept_stageDeparture env room human).participants human.id)
  simp only [RoomRecord.controlLeave, hkind]
  exact hleft

lemma forall₂_controlLeave_agent {agent : RoomParticipant} (hkind : agent.kind = .agent) :
    List.Forall₂ SameSeat room.participants.values
      (room.controlLeave env agent).participants.values := by
  have hstaged := (seatsKept_stageDeparture env room agent).trans
    (seatsKept_expirePermissionRequests env _ (some agent.id))
  have hleft := hstaged.trans (seatsKept_garbageCollectRuntimeHostAuthorization env _)
  simp only [RoomRecord.controlLeave, hkind]
  exact hleft.participants

lemma remaining_agentLeave (agent : RoomParticipant) :
    Remaining (fun participant => participant.id = agent.id) room (room.agentLeave env agent) := by
  have hstaged := ((seatsKept_stageDeparture env room agent).trans
    (seatsKept_stageProducerSubscription _ agent)).trans
    (seatsKept_expirePermissionRequests env _ (some agent.id))
  exact Remaining.garbageCollect (remaining_removeParticipant hstaged.participants agent.id)

/-! ## The alarm -/

lemma remaining_expireParticipant (env : RoomEnv) (room : RoomRecord)
    (participant : RoomParticipant) : Remaining (fun other => other.id = participant.id) room
      (room.expireParticipant env participant) := by
  have hstaged := seatsKept_stageExpired env room participant
  simp only [RoomRecord.expireParticipant]
  refine Remaining.garbageCollect (remaining_removeParticipant ?_ participant.id)
  split
  · split
    · exact (hstaged.trans (seatsKept_expirePermissionRequests env _ _)).participants
    · exact hstaged.participants
  · exact hstaged.participants

/-- Whether a participant is one of some. -/
def isAmong (participants : List RoomParticipant) (participant : RoomParticipant) : Bool :=
  participants.any fun other => participant.id = other.id

lemma isAmong_congr (participants : List RoomParticipant) (before after : RoomParticipant)
    (h : SameSeat before after) : (!isAmong participants before) = !isAmong participants after := by
  rw [isAmong, isAmong, h.place.id]

lemma isAmong_filter_values (p : RoomParticipant → Bool) (participant : RoomParticipant)
    (hmem : participant ∈ room.participants.values) :
    (!isAmong (room.participants.values.filter p) participant) = !p participant := by
  congr 1
  rw [Bool.eq_iff_iff, isAmong, List.any_eq_true]
  constructor
  · rintro ⟨other, hother, hid⟩
    obtain ⟨hother, hp⟩ := List.mem_filter.mp hother
    rwa [room.participants.eq_of_key_eq hmem hother (of_decide_eq_true hid)]
  · exact fun hp => ⟨participant, List.mem_filter.mpr ⟨hmem, hp⟩, decide_eq_true rfl⟩

lemma remaining_foldl_expireParticipant (env : RoomEnv) (room : RoomRecord)
    (expired : List RoomParticipant) :
    Remaining (isAmong expired) room (expired.foldl (RoomRecord.expireParticipant env) room) := by
  induction expired generalizing room with
  | nil => exact Remaining.of_forall₂ (SeatsKept.refl room).participants
  | cons participant expired ih =>
    -- Those that the first expiry leaves, without those that the others take.
    have hfirst := Remaining.forall₂_filter (isAmong_congr expired)
      (remaining_expireParticipant env room participant)
    rw [List.filter_filter] at hfirst
    have hsplit : ∀ other, (!isAmong (participant :: expired) other) =
        ((!isAmong expired other) && !decide (other.id = participant.id)) := by
      intro other
      rw [isAmong, List.any_cons, Bool.not_or, Bool.and_comm]
      rfl
    rw [Remaining, funext hsplit]
    exact SameSeat.forall₂_trans hfirst (ih _)

lemma remaining_alarm (h : room.alarm env = some room') :
    Remaining (RoomRecord.isExpiredParticipant env) room room' := by
  simp only [RoomRecord.alarm] at h
  obtain ⟨-, rfl⟩ := Option.of_guarded h
  have hkept := (seatsKept_expirePermissionRequests env room none).participants
  have hleft := remaining_foldl_expireParticipant env (room.expirePermissionRequests env none)
    (room.participants.values.filter (RoomRecord.isExpiredParticipant env))
  have hstays := Remaining.forall₂_filter (isAmong_congr
    (room.participants.values.filter (RoomRecord.isExpiredParticipant env))) hkept
  rw [List.filter_congr (isAmong_filter_values _)] at hstays
  exact SameSeat.forall₂_trans hstays hleft

/-! ## Moving -/

/-- What the operations that move somebody make of a Room. -/
inductive Moves (env : RoomEnv) (room : RoomRecord) : SessionOp → RoomRecord → Prop
  | registers {kind : RegistrationKind} {request : Registration} {room' : RoomRecord}
    (hregister : kind.register env room request = .ok room') :
    Moves env room (.register request kind) room'
  | connects (participantId token connectionNonce humanId : String) :
    Moves env room (.membership (.connectHuman participantId token connectionNonce))
      (room.updateParticipant humanId (fun participant =>
        { participant with
          connected := true
          connectionNonce := some connectionNonce
          lastSeenAt := env.now }) fun _ => rfl)
  | closes {participantId connectionNonce : String} {participant : RoomParticipant}
    (hget : room.participants.get? participantId = some participant)
    (hnonce : participant.connectionNonce = some connectionNonce) :
    Moves env room (.membership (.closeSocket participantId connectionNonce))
      (room.updateParticipant participantId (fun participant =>
        { participant with
          connected := false
          lastSeenAt := env.now
          connectionNonce := none }) fun _ => rfl).clearAgentVoiceReadiness
  | humanLeaves (participantId token : String) (human : RoomParticipant) :
    Moves env room (.membership (.humanLeave participantId token)) (room.humanLeave env human)
  | controlLeaves {participantId token : String} {participant : RoomParticipant}
    (hfind : room.findParticipant participantId token "" = some participant) :
    Moves env room (.membership (.controlLeave participantId token))
      (room.controlLeave env participant)
  | agentLeaves {participantId token : String} {agent : RoomParticipant}
    (hfind : room.findAgent participantId token = .ok agent) :
    Moves env room (.membership (.agentLeave participantId token)) (room.agentLeave env agent)
  | expires {room' : RoomRecord} (halarm : room.alarm env = some room') :
    Moves env room (.membership .alarm) room'
  | reports {participantId token agentParticipantId sessionId trackName : String}
    {human : RoomParticipant} {room' : RoomRecord}
    (hhuman : (room.findHumanClient participantId token).toOption = some human)
    (hreport : room.agentVoiceReady env human agentParticipantId sessionId trackName =
      .ok (some room')) :
    Moves env room
      (.media (.human participantId token (.agentVoiceReady agentParticipantId sessionId trackName)))
      room'
  | reconnects {participantId token sessionId newSessionId : String}
    {newSessionId_ne : newSessionId ≠ ""} {participant : RoomParticipant}
    (hfind : room.findParticipant participantId token sessionId = some participant) :
    Moves env room (.media (.reconnect participantId token sessionId newSessionId newSessionId_ne))
      (room.updateParticipant participant.id (fun participant =>
        { participant with
          media := participant.media.map fun media =>
            { media with sessionId := newSessionId, fileChannelReady := false, tracks := [] }
          connected := false
          connectionNonce := none
          lastSeenAt := env.now }) fun _ => rfl)

lemma moves_of_move? {op : SessionOp} (h : op.move? env room = some room') :
    Moves env room op room' := by
  cases op with
  | register request kind => exact .registers (Except.toOption_eq_some.mp h)
  | membership op =>
    simp only [SessionOp.move?] at h
    split at h
    · cases h
    cases op with
    | connectHuman participantId token connectionNonce =>
      simp only [MembershipOp.apply, Except.toOption_eq_some, RoomRecord.connectHuman,
        Except.bind_eq_ok, Except.pure_eq_ok] at h
      obtain ⟨human, -, rfl⟩ := h
      exact .connects participantId token connectionNonce human.id
    | closeSocket participantId connectionNonce =>
      simp only [MembershipOp.apply, RoomRecord.closeSocket] at h
      split at h
      · cases h
      next hget =>
        obtain ⟨hnonce, h⟩ := Option.ite_none_left_eq_some.mp h
        obtain rfl := Option.some.inj h
        exact .closes hget (not_not.mp hnonce)
    | humanLeave participantId token =>
      obtain ⟨human, -, rfl⟩ := Option.map_eq_some_iff.mp h
      exact .humanLeaves participantId token human
    | controlLeave =>
      obtain ⟨participant, hfind, rfl⟩ := Option.map_eq_some_iff.mp h
      exact .controlLeaves hfind
    | agentLeave =>
      obtain ⟨agent, hfind, rfl⟩ := Option.map_eq_some_iff.mp h
      exact .agentLeaves (Except.toOption_eq_some.mp hfind)
    | alarm => exact .expires h
    | agentEventConnection | agentEventHeartbeat | agentEventClose => contradiction
  | media op =>
    simp only [SessionOp.move?] at h
    split at h
    next hmoves =>
      cases op with
      | human participantId token op =>
        cases op with
        | agentVoiceReady agentParticipantId sessionId trackName =>
          obtain ⟨human, hhuman, h⟩ := Option.bind_eq_some_iff.mp h
          exact .reports hhuman (Except.toOption_eq_some.mp (Option.join_eq_some_iff.mp h))
        | _ => exact absurd hmoves Bool.false_ne_true
      | reconnect =>
        obtain ⟨participant, hfind, rfl⟩ := reconnect_eq_ok (Except.toOption_eq_some.mp h)
        exact .reconnects hfind
      | _ => exact absurd hmoves Bool.false_ne_true
    next => cases h
  | _ => cases h

/-! ## A Room at a time -/

/-- An environment at a time in which nothing is over budget. The clock never shows zero. -/
def seatEnv (now : ℕ) : RoomEnv where
  now := max now 1
  now_pos := Nat.lt_of_lt_of_le Nat.one_pos (Nat.le_max_right now 1)
  agentMediaEnabled := true
  primaryRoomBytes _ := 0
  storageAccepts := true

lemma ann_ne : "ann" ≠ "" := by decide

lemma ben_ne : "ben" ≠ "" := by decide

lemma bot_ne : "bot" ≠ "" := by decide

end Free4Chat
