import Free4Chat.Operation.Membership

/-!
# Resident Sockets of Agents

The event stream of an Agent is a socket whose attachment survives the hibernation of the Room. It
carries the connection on which it was opened, the one session control that its Runtime may still
answer, and the Task turns that its Runtime last said to be running.

* `AgentEventSocketAttachment`: the attachment, and `AgentSockets`, the sockets of a Room.
* `deserializeAgentEventAttachment`: the attachment as handlers read it.
* `RoomRecord.residentAttachments`: the sockets on the current connection of an Agent.
-/

namespace Free4Chat

def MAX_ATTACHMENT_ACTIVE_TASK_TURNS : ℕ := 8

/-! ## The attachment -/

/-- A Task turn that a Runtime is running. -/
structure AgentEventActiveTaskTurn where
  taskRequestId : String
  turnSequence : ℤ
deriving DecidableEq, Repr

/-- The session controls that a Runtime answers. -/
inductive SessionControlOperation where
  | list
  | prepare
deriving DecidableEq, Repr

/-- A session control that a Runtime has not answered yet. -/
structure PendingSessionControl where
  requestId : String
  operation : SessionControlOperation
  browserRequestId : String
  humanParticipantId : String
  humanConnectionNonce : String
  taskRequestId : Option String := none
  expiresAt : ℕ
deriving DecidableEq, Repr

/-- The attachment of a resident socket. An absent list of turns counts as an empty one. -/
structure AgentEventSocketAttachment where
  participantId : String
  connectionNonce : String
  pendingSessionControl : Option PendingSessionControl := none
  activeTaskTurns : List AgentEventActiveTaskTurn := []
deriving DecidableEq, Repr

/-- Every connection has a nonce of its own. -/
instance : Keyed AgentEventSocketAttachment String where
  key attachment := attachment.connectionNonce

/-- The resident sockets of a Room, oldest first. -/
abbrev AgentSockets := KeyedMap AgentEventSocketAttachment

/-- Whether a stored turn is well formed. -/
def isValidActiveTaskTurn (turn : AgentEventActiveTaskTurn) : Bool :=
  turn.taskRequestId ≠ "" &&
    JsString.utf16Length turn.taskRequestId ≤ MAX_TASK_INTERRUPT_REQUEST_ID_LENGTH &&
    0 < turn.turnSequence && turn.turnSequence ≤ JsValue.maxSafeInteger

/-- The attachment as handlers read it. A malformed or oversized list of turns is dropped. -/
def deserializeAgentEventAttachment (attachment : AgentEventSocketAttachment) :
    AgentEventSocketAttachment :=
  if MAX_ATTACHMENT_ACTIVE_TASK_TURNS < attachment.activeTaskTurns.length ∨
      attachment.activeTaskTurns.all isValidActiveTaskTurn = false then
    { attachment with activeTaskTurns := [] }
  else attachment

section Deserialize

variable (attachment : AgentEventSocketAttachment)

@[simp]
lemma deserialize_participantId :
    (deserializeAgentEventAttachment attachment).participantId = attachment.participantId := by
  unfold deserializeAgentEventAttachment
  split <;> rfl

@[simp]
lemma deserialize_connectionNonce : (deserializeAgentEventAttachment attachment).connectionNonce =
      attachment.connectionNonce := by
  unfold deserializeAgentEventAttachment
  split <;> rfl

lemma deserialize_activeTaskTurns_sublist :
    (deserializeAgentEventAttachment attachment).activeTaskTurns.Sublist
      attachment.activeTaskTurns := by
  unfold deserializeAgentEventAttachment
  split
  · exact List.nil_sublist _
  · exact List.Sublist.refl _

end Deserialize

/-! ## The current connection -/

namespace RoomRecord

/-- Whether a socket belongs to an Agent and is on its current connection. -/
def isResident (participant : RoomParticipant) (attachment : AgentEventSocketAttachment) : Bool :=
  attachment.participantId = participant.id &&
    participant.connectionNonce = some attachment.connectionNonce

/-- The connected Agent under an id. -/
def connectedAgent? (room : RoomRecord) (participantId : String) : Option RoomParticipant :=
  (room.participants.get? participantId).filter fun participant =>
    participant.kind = .agent && participant.connected

/-- The attachments of the sockets on the current connection of a connected Agent. -/
def residentAttachments (room : RoomRecord) (sockets : AgentSockets) (participantId : String) :
    List AgentEventSocketAttachment :=
  match room.connectedAgent? participantId with
  | none => []
  | some participant =>
    (sockets.values.filter (isResident participant)).map deserializeAgentEventAttachment

end RoomRecord

/-- A socket is the resident of an Agent: the Agent is connected, and the socket is on its current
connection. -/
structure Resident (room : RoomRecord) (sockets : AgentSockets) (participantId : String)
    (attachment : AgentEventSocketAttachment) : Prop where
  stored : attachment ∈ sockets.values
  agent : ∃ participant, room.participants.get? participantId = some participant ∧
    participant.kind = .agent ∧ participant.connected = true ∧
      participant.connectionNonce = some attachment.connectionNonce
  owner : attachment.participantId = participantId

section Residents

variable {room : RoomRecord} {sockets : AgentSockets} {participantId : String}

lemma RoomRecord.connectedAgent?_eq_some {participant : RoomParticipant} :
    room.connectedAgent? participantId = some participant ↔
      room.participants.get? participantId = some participant ∧ participant.kind = .agent ∧
        participant.connected = true := by
  rw [RoomRecord.connectedAgent?, Option.filter_eq_some_iff]
  simp

lemma mem_residentAttachments {attachment : AgentEventSocketAttachment} :
    attachment ∈ room.residentAttachments sockets participantId ↔
      ∃ stored, Resident room sockets participantId stored ∧
        attachment = deserializeAgentEventAttachment stored := by
  unfold RoomRecord.residentAttachments
  constructor
  · intro hmem
    cases hagent : room.connectedAgent? participantId with
    | none =>
      rw [hagent] at hmem
      exact absurd hmem List.not_mem_nil
    | some participant =>
      rw [hagent] at hmem
      obtain ⟨hget, hkind, hconnected⟩ := RoomRecord.connectedAgent?_eq_some.mp hagent
      obtain ⟨stored, hstored, rfl⟩ := List.mem_map.mp hmem
      obtain ⟨hmem, hresident⟩ := List.mem_filter.mp hstored
      rw [RoomRecord.isResident, Bool.and_eq_true, decide_eq_true_eq, decide_eq_true_eq] at hresident
      obtain ⟨howner, hnonce⟩ := hresident
      refine ⟨stored, ⟨hmem, ⟨participant, hget, hkind, hconnected, hnonce⟩, ?_⟩, rfl⟩
      rw [howner]
      exact KeyedMap.key_of_get? hget
  · rintro ⟨stored, ⟨hmem, ⟨participant, hget, hkind, hconnected, hnonce⟩, howner⟩, rfl⟩
    rw [RoomRecord.connectedAgent?_eq_some.mpr ⟨hget, hkind, hconnected⟩]
    refine List.mem_map_of_mem (List.mem_filter.mpr ⟨hmem, ?_⟩)
    have hid : participant.id = participantId := KeyedMap.key_of_get? hget
    rw [RoomRecord.isResident, Bool.and_eq_true, decide_eq_true_eq, decide_eq_true_eq]
    exact ⟨by rw [howner, hid], hnonce⟩

lemma Resident.unique {first second : AgentEventSocketAttachment}
    (h : Resident room sockets participantId first)
    (h' : Resident room sockets participantId second) : first = second := by
  obtain ⟨participant, hget, -, -, hnonce⟩ := h.agent
  obtain ⟨participant', hget', -, -, hnonce'⟩ := h'.agent
  obtain rfl := Option.some.inj (hget.symm.trans hget')
  exact KeyedMap.eq_of_key_eq _ h.stored h'.stored (Option.some.inj (hnonce.symm.trans hnonce'))

end Residents

end Free4Chat
