import Free4Chat.Session.SeatMoves

/-!
# Open Sockets of Humans

A Human may have several WebSockets open, one for each tab. The Room keeps one nonce for each
participant, that of the socket that was opened last, and whether the participant is connected.

* `AcceptedSocket` and `SocketRoom`: the sockets that a Room has accepted.
* `SocketRoom.accept` and `SocketRoom.webSocketClose`: opening and closing them.
* `OpenSocketsHeld`: a Human with an open socket is connected, and no alarm removes it.
* `SocketRoom.keepsConnected`: no step takes the connection of a Human with an open socket.
* `openSocketsHeld_of_reachable`: then a Human with an open socket stays connected.

The source breaks this: when the socket that was opened last is closed, the Human is marked
disconnected whatever other sockets of it are open, and the alarm removes it after the grace period.
-/

namespace Free4Chat

variable {env : RoomEnv} {room room' : RoomRecord}

def MAX_SOCKETS_PER_PARTICIPANT : ℕ := 4
def MAX_ROOM_SOCKETS : ℕ := 64

/-! ## Which Humans are there after a step -/

/-- Whether an operation takes the connection of a participant, given by its id: its current socket
closes, or its media reconnects. -/
def dropsConnection (room : RoomRecord) (op : SessionOp) (id : String) : Bool :=
  match op with
  | .membership (.closeSocket participantId connectionNonce) =>
    id = participantId && (room.participants.get? participantId).any fun participant =>
      participant.connectionNonce = some connectionNonce
  | .media (.reconnect participantId token sessionId _ _) =>
    (room.findParticipant participantId token sessionId).any fun participant => id = participant.id
  | _ => false

/-- The participant that an operation registers, given by its id. -/
def SessionOp.joining? : SessionOp → Option String
  | .register request _ => some request.id
  | .agentCreateRoom request => some request.id
  | _ => none

/-- Where a Human comes from that is in the Room after an operation. -/
inductive HumanFrom (room : RoomRecord) (op : SessionOp) (human : RoomParticipant) : Prop
  -- It was there, and still is connected if it was.
  | stays {before : RoomParticipant} (hmem : before ∈ room.participants.values)
    (hstays : Stays before human)
  -- It joins.
  | joins (hjoins : op.joining? = some human.id)
  -- It loses its connection.
  | drops (hdrops : dropsConnection room op human.id = true)

namespace HumanFrom

variable {op : SessionOp}

lemma trans_sameSeat {human other : RoomParticipant} (h : HumanFrom room op human)
    (hseat : SameSeat human other) (hkind : other.kind = .human) : HumanFrom room op other := by
  cases h with
  | stays hmem hstays =>
    exact .stays hmem (hstays.trans (hseat.place.stays (hseat.place.kind.symm.trans hkind)))
  | joins hjoins => exact .joins (hseat.place.id.symm ▸ hjoins)
  | drops hdrops => exact .drops (hseat.place.id.symm ▸ hdrops)

lemma of_remaining {gone : RoomParticipant → Bool} (h : Remaining gone room room')
    {human : RoomParticipant} (hmem : human ∈ room'.participants.values)
    (hkind : human.kind = .human) : HumanFrom room op human := by
  obtain ⟨before, hbefore, -, hseat⟩ := h.exists_before hmem
  exact .stays hbefore (hseat.place.stays (hseat.place.kind.symm.trans hkind))

lemma of_updateParticipant {participantId : String} {f : RoomParticipant → RoomParticipant}
    {hf : ∀ participant, (f participant).id = participant.id} {human : RoomParticipant}
    (hmem : human ∈ (room.updateParticipant participantId f hf).participants.values)
    (hkind : ∀ participant, (f participant).kind = participant.kind)
    (hchanged : ∀ participant ∈ room.participants.values, participant.id = participantId →
      (participant.connected = true → (f participant).connected = true) ∨
        dropsConnection room op participant.id = true) : HumanFrom room op human := by
  have hkept := seatsKept_updateParticipant_of room (R := fun before after =>
    Stays before after ∨ dropsConnection room op after.id = true)
    (fun _ => Or.inl ⟨rfl, rfl, fun h => h⟩) participantId hf fun participant hold hid => by
      rcases hchanged participant hold hid with hconnected | hdrops
      · exact Or.inl ⟨hf participant, hkind participant, hconnected⟩
      · exact Or.inr ((hf participant).symm ▸ hdrops)
  obtain ⟨before, hbefore, hstays | hdrops⟩ := hkept.exists_before hmem
  · exact .stays hbefore hstays
  · exact .drops hdrops

end HumanFrom

/-- Every Human in a Room after an operation that moves somebody was there, or joins, or loses its
connection. -/
lemma humanFrom_of_move {op : SessionOp} (h : op.move? env room = some room')
    {human : RoomParticipant} (hmem : human ∈ room'.participants.values)
    (hkind : human.kind = .human) : HumanFrom room op human := by
  cases moves_of_move? h with
  | registers hregister =>
    obtain ⟨participant, hid, -, -, -, hvalues⟩ := values_register hregister
    rw [hvalues, List.mem_append, List.mem_singleton] at hmem
    rcases hmem with hmem | rfl
    · exact .stays hmem ⟨rfl, rfl, fun h => h⟩
    · exact .joins (congrArg some hid.symm)
  | connects =>
    exact HumanFrom.of_updateParticipant hmem (fun _ => rfl) fun _ _ _ => Or.inl fun _ => rfl
  | closes hget hnonce =>
    obtain ⟨updated, hupdated, hseat⟩ := seatsKept_clearAgentVoiceReadiness.exists_before hmem
    refine HumanFrom.trans_sameSeat ?_ hseat hkind
    refine HumanFrom.of_updateParticipant hupdated (fun _ => rfl) fun other _ hid => Or.inr ?_
    rw [dropsConnection, hid, hget, Option.any_some, decide_eq_true rfl, Bool.true_and]
    exact decide_eq_true hnonce
  | humanLeaves participantId token leaving =>
    exact HumanFrom.of_remaining (remaining_humanLeave leaving) hmem hkind
  | @controlLeaves _ _ participant _ =>
    cases hleaving : participant.kind with
    | human => exact HumanFrom.of_remaining (remaining_controlLeave_human hleaving) hmem hkind
    | agent =>
      have hkept := @forall₂_controlLeave_agent env room participant hleaving
      exact HumanFrom.of_remaining (Remaining.of_forall₂ hkept) hmem hkind
  | @agentLeaves _ _ agent _ =>
    exact HumanFrom.of_remaining (remaining_agentLeave agent) hmem hkind
  | expires halarm => exact HumanFrom.of_remaining (remaining_alarm halarm) hmem hkind
  | reports _ hreport =>
    obtain ⟨before, hbefore, hstays⟩ := (seatsKept_agentVoiceReady hreport).exists_before hmem
    exact .stays hbefore hstays.stays
  | reconnects hfind =>
    refine HumanFrom.of_updateParticipant hmem (fun _ => rfl) fun other _ hid => Or.inr ?_
    rw [dropsConnection, hfind, Option.any_some, hid, decide_eq_true rfl]

lemma joining?_of_create {op : SessionOp} (h : op.create? env = some room)
    {participant : RoomParticipant} (hmem : participant ∈ room.participants.values) :
    op.joining? = some participant.id := by
  have hjoins : ∀ {request : Registration} {kind : RegistrationKind},
      kind.register env (RoomRecord.newRoom env) request = .ok room →
        request.id = participant.id := by
    intro request kind hregister
    obtain ⟨joined, hid, -, -, -, hvalues⟩ := values_register hregister
    have hnew : participant ∈ [] ++ [joined] := hvalues ▸ hmem
    rw [List.nil_append, List.mem_singleton] at hnew
    rw [hnew, hid]
  cases op with
  | register request kind => exact congrArg some (hjoins (Except.toOption_eq_some.mp h))
  | agentCreateRoom request =>
    exact congrArg some (@hjoins request (.agent none) (Except.toOption_eq_some.mp h))
  | _ => cases h

/-! ## Sockets -/

/-- A WebSocket of a Human that the Room accepted and that has not finished closing. -/
structure AcceptedSocket where
  participantId : String
  connectionNonce : String
  -- The Room has not closed it.
  isOpen : Bool := true
deriving DecidableEq

/-- Whether a participant, given by its id, has an open socket. -/
def hasOpenSocket (sockets : List AcceptedSocket) (participantId : String) : Bool :=
  sockets.any fun socket => socket.isOpen && socket.participantId = participantId

/-- A Room with the sockets it has accepted. -/
structure SocketRoom where
  session : RoomSession := {}
  sockets : List AcceptedSocket := []
  -- Specification field: the Humans that an alarm removed while a socket of theirs was open.
  expired : List String := []

/-- What happens to the Room and its sockets. -/
inductive SocketOp where
  -- A Human opens a WebSocket while so many sockets of Agents are there.
  | accept (participantId token connectionNonce : String) (agentSockets : ℕ)
  -- A socket has closed, whoever closed it.
  | webSocketClose (socket : AcceptedSocket)
  -- Any other operation.
  | operation (op : SessionOp)

namespace SocketRoom

/-- Closes the sockets of a participant that has as many as it may have. -/
def replaceSockets (sockets : List AcceptedSocket) (participantId : String) :
    List AcceptedSocket :=
  if MAX_SOCKETS_PER_PARTICIPANT ≤
      (sockets.filter fun socket => socket.participantId = participantId).length then
    sockets.map fun socket =>
      if socket.participantId = participantId then { socket with isOpen := false } else socket
  else sockets

/-- The operation by which a Human opens its WebSocket. -/
def connectOp (participantId token connectionNonce : String) : SessionOp :=
  .membership (.connectHuman participantId token connectionNonce)

/-- The operation by which a WebSocket closes. -/
def closeOp (socket : AcceptedSocket) : SessionOp :=
  .membership (.closeSocket socket.participantId socket.connectionNonce)

/-- A Human opens a WebSocket. The socket is accepted after the record is saved. -/
def accept (env : RoomEnv) (s : SocketRoom) (participantId token connectionNonce : String)
    (agentSockets : ℕ) : SocketRoom :=
  match (s.session.activeRoom env).1.bind fun room =>
      (room.findHumanClient participantId token).toOption with
  | none => { s with session := (s.session.activeRoom env).2 }
  | some human =>
    if MAX_ROOM_SOCKETS ≤ agentSockets + s.sockets.length then
      { s with session := (s.session.activeRoom env).2 }
    else
      { s with
        session := s.session.step env (connectOp participantId token connectionNonce)
        sockets := replaceSockets s.sockets human.id ++
          if (s.session.moved? env (connectOp participantId token connectionNonce)).isSome then
            [{ participantId, connectionNonce }]
          else [] }

/-- A socket has closed. -/
def webSocketClose (env : RoomEnv) (s : SocketRoom) (socket : AcceptedSocket) : SocketRoom :=
  { s with
    session := s.session.step env (closeOp socket)
    sockets := s.sockets.erase socket }

/-- The Humans with open sockets that are in one Room and not in the next. -/
def removedHolders (sockets : List AcceptedSocket) : Option RoomRecord → Option RoomRecord →
    List String
  | some before, some after =>
    (before.participants.values.filter fun human => human.kind = .human &&
      hasOpenSocket sockets human.id && !after.participants.contains human.id).map (·.id)
  | _, _ => []

/-- Any other operation. -/
def operate (env : RoomEnv) (s : SocketRoom) (op : SessionOp) : SocketRoom :=
  { s with
    session := s.session.step env op
    expired := s.expired ++
      match op with
      | .membership .alarm =>
        removedHolders s.sockets s.session.stored (s.session.step env op).stored
      | _ => [] }

/-- Whether an operation can happen: the Worker registers participants under ids that are new, and
WebSockets open and close as they do above. -/
def isOther (s : SocketRoom) (op : SessionOp) : Bool :=
  match op with
  | .membership (.connectHuman ..) | .membership (.closeSocket ..) => false
  | op => op.joining?.all fun id => s.sockets.all fun socket => socket.participantId ≠ id

/-- One step, if it can happen. -/
def next? (s : SocketRoom) : RoomEnv × SocketOp → Option SocketRoom
  | (env, .accept participantId token connectionNonce agentSockets) =>
    some (s.accept env participantId token connectionNonce agentSockets)
  | (env, .webSocketClose socket) =>
    if s.sockets.contains socket then some (s.webSocketClose env socket) else none
  | (env, .operation op) => if s.isOther op then some (s.operate env op) else none

end SocketRoom

/-- The sockets of Humans that open and close, with all other operations of the Room. -/
def socketSystem : TransitionSystem SocketRoom (RoomEnv × SocketOp) where
  init s := s = {}
  step s label s' := s.next? label = some s'

/-- A Human with an open socket is connected, and no alarm removes it. -/
structure OpenSocketsHeld (s : SocketRoom) : Prop where
  connected : ∀ room, s.session.stored = some room → ∀ human ∈ room.participants.values,
    human.kind = .human → hasOpenSocket s.sockets human.id = true → human.connected = true
  unexpired : s.expired = []

namespace SocketRoom

/-- Whether an operation leaves their connections to the Humans with open sockets. -/
def keepsOpen (env : RoomEnv) (session : RoomSession) (op : SessionOp)
    (sockets : List AcceptedSocket) : Bool :=
  (session.activeRoom env).1.all fun room => sockets.all fun socket =>
    !(socket.isOpen && dropsConnection room op socket.participantId)

lemma keepsOpen_of_dropsConnection {session : RoomSession} {op : SessionOp}
    {sockets : List AcceptedSocket} (h : ∀ room id, dropsConnection room op id = false) :
    keepsOpen env session op sockets = true := by
  rw [keepsOpen]
  cases (session.activeRoom env).1 with
  | none => rfl
  | some room =>
    rw [Option.all_some, List.all_eq_true]
    intro socket _
    rw [h, Bool.and_false, Bool.not_false]

/-- The socket that a Human opened last is the last one of it to close, and a Human reconnects its
media without an open socket only. -/
def keepsConnected (s : SocketRoom) : RoomEnv × SocketOp → Bool
  | (_, .accept ..) => true
  | (env, .webSocketClose socket) =>
    keepsOpen env s.session (closeOp socket) (s.sockets.erase socket)
  | (env, .operation op) => keepsOpen env s.session op s.sockets

end SocketRoom

/-! ## Steps -/

/-- The Humans with open sockets are connected. -/
def HoldersConnected (session : RoomSession) (sockets : List AcceptedSocket) : Prop :=
  ∀ room, session.stored = some room → ∀ human ∈ room.participants.values, human.kind = .human →
    hasOpenSocket sockets human.id = true → human.connected = true

namespace HoldersConnected

variable {session : RoomSession} {sockets sockets' : List AcceptedSocket} {op : SessionOp}

section

variable (h : HoldersConnected session sockets)
include h

lemma mono (hle : ∀ id, hasOpenSocket sockets' id = true → hasOpenSocket sockets id = true) :
    HoldersConnected session sockets' := by
  intro room hstored human hmem hkind hopen
  exact h room hstored human hmem hkind (hle human.id hopen)

lemma step (hkeeps : SocketRoom.keepsOpen env session op sockets = true)
    (hjoins : ∀ id, op.joining? = some id → hasOpenSocket sockets id = false) :
    HoldersConnected (session.step env op) sockets := by
  intro after hafter human hmem hkind hopen
  cases RoomSession.seatStep_step env session op with
  | vacant _ hstored' _ => exact nomatch hafter.symm.trans hstored'
  | kept _ hstored hstored' hkept =>
    obtain rfl := Option.some.inj (hafter.symm.trans hstored')
    obtain ⟨before, hbefore, hseat⟩ := hkept.exists_before hmem
    have hhuman := hseat.place.kind.symm.trans hkind
    rw [hseat.place.connected hhuman]
    exact h _ hstored before hbefore hhuman (hseat.place.id ▸ hopen)
  | created _ _ hstored' hcreate hseats =>
    obtain rfl := Option.some.inj (hafter.symm.trans hstored')
    obtain ⟨joined, hjoined, hseat⟩ := hseats.exists_before hmem
    have hnot := hjoins joined.id (joining?_of_create hcreate hjoined)
    rw [hseat.place.id, hnot] at hopen
    cases hopen
  | @moved stored room room' saved _ hstored hstored' hactive hmove hbefore hseats =>
    obtain rfl := Option.some.inj (hafter.symm.trans hstored')
    obtain ⟨moved, hmoved, hseat⟩ := hseats.exists_before hmem
    have hfrom := (humanFrom_of_move hmove hmoved
      (hseat.place.kind.symm.trans hkind)).trans_sameSeat hseat hkind
    cases hfrom with
    | @stays loaded hloaded hstays =>
      obtain ⟨before, hold, hplace⟩ := hbefore.exists_before hloaded
      have hhuman := hplace.place.kind.symm.trans (hstays.kind.symm.trans hkind)
      refine hstays.connected ((hplace.place.connected hhuman).trans ?_)
      refine h stored hstored before hold hhuman ?_
      rw [← hplace.place.id, ← hstays.id]
      exact hopen
    | joins hjoining =>
      rw [hjoins human.id hjoining] at hopen
      cases hopen
    | drops hdrops =>
      -- The guard rules this out for a Human with an open socket.
      rw [SocketRoom.keepsOpen, hactive, Option.all_some, List.all_eq_true] at hkeeps
      obtain ⟨socket, hsocket, hheld⟩ := List.any_eq_true.mp hopen
      rw [Bool.and_eq_true, decide_eq_true_eq] at hheld
      have hnot := hkeeps socket hsocket
      rw [hheld.1, hheld.2, hdrops] at hnot
      cases hnot

lemma loaded (env : RoomEnv) : HoldersConnected (session.activeRoom env).2 sockets := by
  have hread : HoldersConnected (session.step env .readCollab) sockets :=
    h.step (SocketRoom.keepsOpen_of_dropsConnection fun _ _ => rfl) fun id hjoins => nomatch hjoins
  -- A read leaves stored what the load does.
  have hstored : (session.readCollab env).stored = (session.activeRoom env).2.stored := by
    rw [RoomSession.readCollab]
    split
    next hactive => rw [hactive]
    next hactive => rw [hactive]
  intro room hroom
  exact hread room (hstored.trans hroom)

end

end HoldersConnected

lemma removedHolders_alarm {session : RoomSession} {sockets : List AcceptedSocket}
    (h : HoldersConnected session sockets) : SocketRoom.removedHolders sockets session.stored
      (session.step env (.membership .alarm)).stored = [] := by
  cases hstored : session.stored with
  | none => rfl
  | some before =>
    cases hstored' : (session.step env (.membership .alarm)).stored with
    | none => rfl
    | some after =>
      rw [SocketRoom.removedHolders, List.map_eq_nil_iff, List.filter_eq_nil_iff]
      intro human hmem hremoved
      simp only [Bool.and_eq_true, decide_eq_true_eq, Bool.not_eq_true'] at hremoved
      obtain ⟨⟨hkind, hopen⟩, hgone⟩ := hremoved
      have hconnected := h before hstored human hmem hkind hopen
      have hstays : ∃ other ∈ after.participants.values, other.id = human.id := by
        cases RoomSession.seatStep_step env session (.membership .alarm) with
        | vacant _ hnone _ => cases hstored'.symm.trans hnone
        | created _ hnone _ _ _ => cases hstored.symm.trans hnone
        | kept _ hbefore hafter hkept =>
          obtain rfl := Option.some.inj (hbefore.symm.trans hstored)
          obtain rfl := Option.some.inj (hafter.symm.trans hstored')
          obtain ⟨other, hother, hseat⟩ := hkept.exists_after hmem
          exact ⟨other, hother, hseat.place.id⟩
        | moved _ hbefore hafter hactive hmove hloaded hseats =>
          obtain rfl := Option.some.inj (hbefore.symm.trans hstored)
          obtain rfl := Option.some.inj (hafter.symm.trans hstored')
          obtain ⟨loaded, hmem', hseat⟩ := hloaded.exists_after hmem
          have hnot : RoomRecord.isExpiredParticipant env loaded = false := by
            rw [RoomRecord.isExpiredParticipant, RoomRecord.isExpiredHuman,
              RoomRecord.isExpiredAgent, hseat.place.kind, hkind, hseat.place.connected hkind,
              hconnected]
            rfl
          obtain ⟨left, hleft, hseat'⟩ := (remaining_alarm hmove).exists_after hmem' hnot
          obtain ⟨other, hother, hseat''⟩ := hseats.exists_after hleft
          exact ⟨other, hother,
            (hseat''.place.id.trans hseat'.place.id).trans hseat.place.id⟩
      obtain ⟨other, hother, hid⟩ := hstays
      have hcontains : after.participants.contains human.id = true := by
        rw [← hid]
        exact KeyedMap.contains_iff.mpr ⟨other, KeyedMap.get?_key hother⟩
      exact Bool.false_ne_true (hgone.symm.trans hcontains)

lemma hasOpenSocket_of_replaceSockets {sockets : List AcceptedSocket} {participantId id : String}
    (h : hasOpenSocket (SocketRoom.replaceSockets sockets participantId) id = true) :
    hasOpenSocket sockets id = true := by
  rw [SocketRoom.replaceSockets] at h
  split at h
  next =>
    obtain ⟨closed, hmem, hopen⟩ := List.any_eq_true.mp h
    obtain ⟨socket, hsocket, rfl⟩ := List.mem_map.mp hmem
    split at hopen
    · cases hopen
    · exact List.any_eq_true.mpr ⟨socket, hsocket, hopen⟩
  next => exact h

lemma connected_connectOp {session : RoomSession} {participantId token connectionNonce : String}
    {saved : RoomRecord}
    (hmoved : session.moved? env (SocketRoom.connectOp participantId token connectionNonce) =
      some saved) (hstored : (session.step env
      (SocketRoom.connectOp participantId token connectionNonce)).stored = some room)
    {human : RoomParticipant} (hmem : human ∈ room.participants.values)
    (hkind : human.kind = .human) (hid : human.id = participantId) : human.connected = true := by
  cases RoomSession.seatStep_step env session
      (SocketRoom.connectOp participantId token connectionNonce) with
  | vacant hnone | kept hnone => exact nomatch hmoved.symm.trans hnone
  | created _ _ _ hcreate _ => cases hcreate
  | moved _ _ hafter _ hmove _ hseats =>
    obtain rfl := Option.some.inj (hafter.symm.trans hstored)
    obtain ⟨moved, hmoved, hseat⟩ := hseats.exists_before hmem
    rw [hseat.place.connected (hseat.place.kind.symm.trans hkind)]
    have happly := Except.toOption_eq_some.mp hmove
    simp only [RoomRecord.connectHuman, Except.bind_eq_ok, Except.pure_eq_ok] at happly
    obtain ⟨found, hfound, rfl⟩ := happly
    obtain ⟨before, -, rfl⟩ := List.mem_map.mp hmoved
    have hfoundId : found.id = participantId :=
      KeyedMap.key_of_get? (get?_of_findHumanClient hfound).1
    have hmovedId := hseat.place.id.symm.trans (hid.trans hfoundId.symm)
    split at hmovedId
    next hkey => rw [if_pos hkey]
    next hkey => exact absurd hmovedId hkey

namespace SocketRoom

variable {s s' : SocketRoom}

lemma hasOpenSocket_of_isOther {op : SessionOp} (h : s.isOther op = true) {id : String}
    (hjoins : op.joining? = some id) : hasOpenSocket s.sockets id = false := by
  have hnew : (s.sockets.all fun socket => decide (socket.participantId ≠ id)) = true := by
    unfold isOther at h
    split at h
    · cases h
    · cases h
    · rw [hjoins] at h
      exact h
  rw [hasOpenSocket, List.any_eq_false]
  intro socket hmem hopen
  rw [Bool.and_eq_true, decide_eq_true_eq] at hopen
  exact of_decide_eq_true (List.all_eq_true.mp hnew socket hmem) hopen.2

lemma openSocketsHeld_accept (h : OpenSocketsHeld s) (env : RoomEnv) (participantId token
    connectionNonce : String) (agentSockets : ℕ) :
    OpenSocketsHeld (s.accept env participantId token connectionNonce agentSockets) := by
  have hholders : HoldersConnected s.session s.sockets := h.connected
  have hloaded := hholders.loaded env
  have hkeeps : keepsOpen env s.session (connectOp participantId token connectionNonce) s.sockets =
      true := keepsOpen_of_dropsConnection fun _ _ => rfl
  have hstep := hholders.step hkeeps fun id hjoins => nomatch hjoins
  rw [accept]
  split
  · exact ⟨hloaded, h.unexpired⟩
  next human _ =>
    split
    · exact ⟨hloaded, h.unexpired⟩
    · refine ⟨fun room hstored other hmem hkind hopen => ?_, h.unexpired⟩
      rw [hasOpenSocket, List.any_append, Bool.or_eq_true] at hopen
      rcases hopen with hopen | hopen
      · exact hstep room hstored other hmem hkind (hasOpenSocket_of_replaceSockets hopen)
      · -- The new socket is accepted when the record is saved.
        split at hopen
        next haccepted =>
          obtain ⟨saved, hmoved⟩ := Option.isSome_iff_exists.mp haccepted
          have hid : participantId = other.id := by simpa using hopen
          exact connected_connectOp hmoved hstored hmem hkind hid.symm
        next => cases hopen

lemma openSocketsHeld_next {label : RoomEnv × SocketOp} (h : OpenSocketsHeld s)
    (hguard : s.keepsConnected label = true) (hnext : s.next? label = some s') :
    OpenSocketsHeld s' := by
  obtain ⟨env, op⟩ := label
  have hholders : HoldersConnected s.session s.sockets := h.connected
  cases op with
  | accept participantId token connectionNonce agentSockets =>
    obtain rfl := Option.some.inj hnext
    exact openSocketsHeld_accept h env participantId token connectionNonce agentSockets
  | webSocketClose socket =>
    obtain ⟨-, rfl⟩ := Option.of_guarded hnext
    refine ⟨(hholders.mono fun id hopen => ?_).step hguard (fun id hjoins => nomatch hjoins),
      h.unexpired⟩
    obtain ⟨other, hmem, hopen⟩ := List.any_eq_true.mp hopen
    exact List.any_eq_true.mpr ⟨other, List.mem_of_mem_erase hmem, hopen⟩
  | operation op =>
    obtain ⟨hother, rfl⟩ := Option.of_guarded hnext
    refine ⟨hholders.step hguard fun id hjoins => ?_, ?_⟩
    · exact hasOpenSocket_of_isOther hother hjoins
    · show s.expired ++ _ = []
      rw [h.unexpired, List.nil_append]
      split
      next => exact removedHolders_alarm hholders
      next => rfl

end SocketRoom

/-- A Human joins and opens two tabs, the second one a second later. -/
def tabLabels : List (RoomEnv × SocketOp) :=
  [(seatEnv 1000, .operation (.register
      { id := "ann", name := "ann", token := "t", joinedAt := 1, id_ne := ann_ne }
      (.human "ann" ann_ne))),
    (seatEnv 1000, .accept "ann" "t" "first" 0),
    (seatEnv 2000, .accept "ann" "t" "second" 0)]

/-- The Human closes a tab, and an alarm goes off when the grace period is over. -/
def closingLabels (connectionNonce : String) : List (RoomEnv × SocketOp) :=
  tabLabels ++
    [(seatEnv 3000, .webSocketClose { participantId := "ann", connectionNonce }),
      (seatEnv 40000, .operation (.membership .alarm))]

end Free4Chat
