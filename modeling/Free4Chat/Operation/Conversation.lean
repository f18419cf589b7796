import Free4Chat.Operation.Media

/-!
# Conversation

The operations that append to the message log, apart from collaboration, and the permission
requests.

* `RoomRecord.appendHumanText` and `RoomRecord.agentSendText`: text, in the Room or in a Task.
* `RoomRecord.appendAction`: an action of a Human.
* `RoomRecord.agentSendPermission` and `RoomRecord.permissionResponse`: permissions.
-/

namespace Free4Chat

/-- Longest text of a message. -/
def MAX_TEXT_LENGTH : ℕ := 4000

/-- The targets of ordinary text: participants of the Room, without repetition and bounded. -/
def normalizeChatTargets (participants : Participants) (rawTargets : JsValue)
    (excludeId : Option String) : List String :=
  let raw := match rawTargets with
    | .arr items => items.filterMap JsValue.asString?
    | _ => []
  (raw.filter fun id => participants.contains id && excludeId ≠ some id).distinct.take MAX_TARGETS

/-- Targets as a message stores them: none when there are none. -/
def storedTargets (targets : List String) : Option (List String) :=
  if targets.isEmpty then none else some targets

/-- A text message. The log allocates its sequence. -/
def textMessage (sender : RoomParticipant) (text : String) (taskRequestId : Option String)
    (targets : Option (List String)) (createdAt : ℕ) : RoomMessage :=
  { peerId := sender.id
    name := sender.name
    kind := sender.kind
    type := .text
    text := some text
    taskRequestId
    targets
    createdAt
    sequence := 0 }

namespace RoomRecord

variable (env : RoomEnv)

/-- The Task that a message is scoped to, if it names one. -/
def resolveMessageTask (room : RoomRecord) (taskRequestId : JsValue) :
    Except String (Option TaskRequestResolution) :=
  match taskRequestId with
  | .undefined => .ok none
  | value => (resolveTaskRequest (buildTaskProjectionIndex room.messages room.participants) value
      room.participants).map some

/-- The targets that a Human's text stores. -/
def humanTextTargets (room : RoomRecord) (human : RoomParticipant) (targets : JsValue)
    (task : Option TaskRequestResolution) : Except String (Option (List String)) :=
  match task with
  | none => .ok (storedTargets (normalizeChatTargets room.participants targets none))
  | some task => (resolveHumanTaskTargets task human room.participants targets MAX_TARGETS).map some

/-- The targets of an Agent's text. -/
def agentTextTargets (room : RoomRecord) (agent : RoomParticipant) (targets : JsValue)
    (task : Option TaskRequestResolution) : Except String (List String) :=
  match task with
  | none => .ok (normalizeChatTargets room.participants targets (some agent.id))
  | some task => resolveAgentTaskTargets task agent room.participants targets MAX_TARGETS

/-- A Human writes text. -/
def appendHumanText (room : RoomRecord) (human : RoomParticipant) (text : String)
    (targets taskRequestId : JsValue) : Except String RoomRecord := do
  let task ← room.resolveMessageTask taskRequestId
  let resolved ← humanTextTargets room human targets task
  return room.appendMessage env (textMessage human
    (JsString.slice (JsString.trim text) MAX_TEXT_LENGTH) (task.map (·.requestId)) resolved env.now)

/-- An Agent writes text. It never addresses itself. -/
def agentSendText (room : RoomRecord) (participantId token text : String)
    (targets taskRequestId : JsValue) : Except String RoomRecord := do
  let agent ← room.findAgent participantId token
  let trimmed := JsString.trim text
  Except.rejectWhen (trimmed = "") "text_required"
  let task ← room.resolveMessageTask taskRequestId
  let resolved ← agentTextTargets room agent targets task
  return (room.touch env agent.id).appendMessage env (textMessage agent
    (JsString.slice trimmed MAX_TEXT_LENGTH) (task.map (·.requestId)) (storedTargets resolved)
    env.now)

/-- A Human sends an action. Permission decisions are not actions. -/
def appendAction (room : RoomRecord) (human : RoomParticipant) (actionType : String) :
    Except String RoomRecord :=
  if actionType = "permission" then .error "permission_requires_structured_response"
  else
    .ok (room.appendMessage env
      { peerId := human.id
        name := human.name
        kind := human.kind
        type := .action
        actionType := some actionType
        createdAt := env.now
        sequence := 0 })

/-- The expiry of permission requests, committed when there is any: the record to go on with, and
the one that is stored, if one is. -/
def commitPermissionExpirations (room : RoomRecord) : Option (RoomRecord × Option RoomRecord) :=
  if room.hasExpiringPermission env none then
    ((room.expirePermissionRequests env none).saveRoom env).map fun saved => (saved, some saved)
  else some (room, none)

/-- An Agent asks for a permission: the record that is stored afterwards, if one is. Requests that
have to expire are committed first. -/
def agentSendPermission (room : RoomRecord) (participantId token : String) (request : JsValue) :
    Except String (Option RoomRecord) := do
  let agent ← room.findAgent participantId token
  match (room.touch env agent.id).commitPermissionExpirations env with
  | none => throw "room_state_budget_exceeded"
  | some (room, committed) =>
    match room.ingestPermissionRequest env agent request with
    | .error _ => return committed
    | .ok (.duplicate _) => return committed
    | .ok (.recorded room) => return (room.saveRoom env).or committed
    | .ok (.replayed room) => return (room.saveRoom env).or committed

variable {env} in
lemma commitPermissionExpirations_cases {room current : RoomRecord} {committed : Option RoomRecord}
    (h : room.commitPermissionExpirations env = some (current, committed)) :
    (current = room ∧ committed = none) ∨
      ((room.expirePermissionRequests env none).saveRoom env = some current ∧
        committed = some current) := by
  unfold commitPermissionExpirations at h
  split at h
  · obtain ⟨saved, hsave, heq⟩ := Option.map_eq_some_iff.mp h
    obtain ⟨rfl, rfl⟩ := Prod.mk.inj heq
    exact Or.inr ⟨hsave, rfl⟩
  · obtain ⟨rfl, rfl⟩ := Prod.mk.inj (Option.some.inj h)
    exact Or.inl ⟨rfl, rfl⟩

variable {env} in
lemma agentSendPermission_cases {room saved : RoomRecord} {participantId token : String}
    {request : JsValue}
    (h : room.agentSendPermission env participantId token request = .ok (some saved)) :
    ∃ agent current committed, room.findAgent participantId token = .ok agent ∧
      (room.touch env agent.id).commitPermissionExpirations env = some (current, committed) ∧
      (committed = some saved ∨
        ∃ answered, (current.ingestPermissionRequest env agent request = .ok (.recorded answered) ∨
            current.ingestPermissionRequest env agent request = .ok (.replayed answered)) ∧
          answered.saveRoom env = some saved) := by
  simp only [agentSendPermission, Except.bind_eq_ok] at h
  obtain ⟨agent, hagent, h⟩ := h
  split at h
  · cases h
  · rename_i current committed hcommit
    refine ⟨agent, current, committed, hagent, hcommit, ?_⟩
    split at h
    · exact Or.inl (Except.pure_eq_ok.mp h)
    · exact Or.inl (Except.pure_eq_ok.mp h)
    · rename_i answered hingest
      rcases Option.or_eq_some_iff.mp (Except.pure_eq_ok.mp h) with hsave | ⟨-, hsave⟩
      · exact Or.inr ⟨answered, Or.inl hingest, hsave⟩
      · exact Or.inl hsave
    · rename_i answered hingest
      rcases Option.or_eq_some_iff.mp (Except.pure_eq_ok.mp h) with hsave | ⟨-, hsave⟩
      · exact Or.inr ⟨answered, Or.inr hingest, hsave⟩
      · exact Or.inl hsave

/-- A Human answers a permission request: the record to save, if there is one. -/
def permissionResponse (room : RoomRecord) (human : RoomParticipant)
    (requestId selectedOptionId : JsValue) : Option RoomRecord × Option String :=
  let requestId := JsString.trim (requestId.asString?.getD "")
  let selectedOptionId := JsString.trim (selectedOptionId.asString?.getD "")
  if requestId = "" ∨ selectedOptionId = "" then (none, some "invalid_permission_response")
  else room.ingestPermissionResponse env human requestId selectedOptionId

end RoomRecord

end Free4Chat
