import Free4Chat.Data.Fallible
import Free4Chat.Room.Normalize
import Free4Chat.Task.TaskScope

/-!
# Permission Requests

An Agent asks for a permission, and a Human resolves the request or it expires. Pending requests
are indexed in the Room record; the request and its one terminal are messages of the log.

* `validatePermissionRequest`: the request that an Agent's input describes.
* `RoomRecord.ingestPermissionRequest`: admits a request, or recognises a retry.
* `RoomRecord.ingestPermissionResponse`: resolves a request.
* `RoomRecord.expirePermissionRequests`: expires the requests whose time or Agent is gone.
-/

namespace Free4Chat

/-! ## Validation -/

def MAX_PERMISSION_REQUEST_ID_LENGTH : ℕ := 64
def MAX_PERMISSION_TITLE_LENGTH : ℕ := 200
def MAX_PERMISSION_KIND_LENGTH : ℕ := 64
def MAX_PERMISSION_SUMMARY_LENGTH : ℕ := 1000
def MAX_PERMISSION_DETAILS_ENTRIES : ℕ := 12
def MAX_PERMISSION_DETAIL_KEY_LENGTH : ℕ := 64
def MAX_PERMISSION_DETAIL_VALUE_LENGTH : ℕ := 512
def MAX_PERMISSION_OPTIONS : ℕ := 8
def MAX_PERMISSION_OPTION_ID_LENGTH : ℕ := 64
def MAX_PERMISSION_OPTION_NAME_LENGTH : ℕ := 160
def MIN_PERMISSION_LIFETIME_MS : ℤ := 1000
def DEFAULT_PERMISSION_LIFETIME_MS : ℤ := 2 * 60 * 1000
def MAX_PERMISSION_LIFETIME_MS : ℤ := 5 * 60 * 1000

/-- A required string, trimmed and bounded. -/
def validateBoundedString (value : JsValue) (maxLength : ℕ) (requiredError invalidError : String) :
    Except String String :=
  match value.asString? with
  | none => .error invalidError
  | some raw =>
    let normalized := JsString.trim raw
    if normalized = "" then .error requiredError
    else if maxLength < JsString.utf16Length normalized then .error (invalidError ++ "_too_long")
    else .ok normalized

/-- An optional string, trimmed and bounded. A blank string counts as absent. -/
def validateOptionalString (value : JsValue) (maxLength : ℕ) : Except String (Option String) :=
  match value with
  | .undefined => .ok none
  | value =>
    match value.asString? with
    | none => .error "invalid_string"
    | some raw =>
      let normalized := JsString.trim raw
      if normalized = "" then .ok none
      else if maxLength < JsString.utf16Length normalized then .error "string_too_long"
      else .ok (some normalized)

/-- The optional details of a tool call. -/
def validateDetails (value : JsValue) : Except String (Option (List (String × String))) :=
  match value with
  | .undefined => .ok none
  | value =>
    match value.asRecord? with
    | none => .error "invalid_tool_call_details"
    | some entries =>
      if MAX_PERMISSION_DETAILS_ENTRIES < entries.length then .error "too_many_tool_call_details"
      else
        let parsed := entries.mapM fun (key, rawValue) =>
          (rawValue.asString?.filter fun text =>
            key ≠ "" && JsString.utf16Length key ≤ MAX_PERMISSION_DETAIL_KEY_LENGTH &&
              JsString.utf16Length text ≤ MAX_PERMISSION_DETAIL_VALUE_LENGTH).map fun text =>
                (key, text)
        match parsed with
        | none => .error "invalid_tool_call_detail"
        | some [] => .ok none
        | some details => .ok (some details)

/-- The tool call that a permission is asked for. -/
def validateToolCall (value : JsValue) : Except String PermissionToolCall := do
  Except.rejectWhen (value.asRecord?.isNone = true) "tool_call_required"
  let title ← validateBoundedString (value.get "title") MAX_PERMISSION_TITLE_LENGTH
    "tool_call_title_required" "tool_call_title"
  let kind ← (validateOptionalString (value.get "kind") MAX_PERMISSION_KIND_LENGTH).mapError
    fun _ => "invalid_tool_call_kind"
  let summary ← (validateOptionalString (value.get "summary")
    MAX_PERMISSION_SUMMARY_LENGTH).mapError fun _ => "invalid_tool_call_summary"
  let details ← validateDetails (value.get "details")
  return { title, kind, summary, details }

/-- One option of a request, whose id is not among the ids seen before it. -/
def validateOption (seen : List String) (rawOption : JsValue) : Except String PermissionOption := do
  Except.rejectWhen (rawOption.asRecord?.isNone = true) "invalid_permission_option"
  let optionId ← validateBoundedString (rawOption.get "optionId")
    MAX_PERMISSION_OPTION_ID_LENGTH "permission_option_id_required" "permission_option_id"
  Except.rejectWhen (optionId ∈ seen) "duplicate_permission_option"
  let name ← validateBoundedString (rawOption.get "name") MAX_PERMISSION_OPTION_NAME_LENGTH
    "permission_option_name_required" "permission_option_name"
  let kind ← (validateOptionalString (rawOption.get "kind") MAX_PERMISSION_KIND_LENGTH).mapError
    fun _ => "invalid_permission_option_kind"
  return { optionId, name, kind }

/-- The options of a request, after those validated before. -/
def validateOptionList : List PermissionOption → List JsValue →
    Except String (List PermissionOption)
  | options, [] => .ok options
  | options, rawOption :: rawOptions => do
    let option ← validateOption (options.map (·.optionId)) rawOption
    validateOptionList (options ++ [option]) rawOptions

/-- The options of a request. -/
def validateOptions (value : JsValue) : Except String (List PermissionOption) :=
  match value with
  | .arr (rawOption :: rawOptions) =>
    if MAX_PERMISSION_OPTIONS < (rawOption :: rawOptions).length then
      .error "too_many_permission_options"
    else validateOptionList [] (rawOption :: rawOptions)
  | _ => .error "permission_options_required"

/-- The lifetime of a request. -/
def permissionLifetime (value : JsValue) : Except String ℤ :=
  match value with
  | .undefined => .ok DEFAULT_PERMISSION_LIFETIME_MS
  | value =>
    match value.asSafeInteger? with
    | none => .error "invalid_permission_lifetime"
    | some lifetime =>
      if lifetime < MIN_PERMISSION_LIFETIME_MS ∨ MAX_PERMISSION_LIFETIME_MS < lifetime then
        .error "invalid_permission_lifetime"
      else .ok lifetime

/-- The Task that a request is asked in, if it names one. -/
def permissionTask (value : JsValue) : Except String (Option String) :=
  match value with
  | .undefined => .ok none
  | value =>
    match value.asString?.filter isRequestIdPattern with
    | none => .error "invalid_task_request"
    | some id => .ok (some id)

/-- A validated permission request. -/
structure ValidatedPermissionRequest where
  requestId : String
  toolCall : PermissionToolCall
  options : List PermissionOption
  expiresAt : ℕ
  taskRequestId : Option String
deriving DecidableEq

/-- Validates an Agent's permission request. -/
def validatePermissionRequest (input : JsValue) (now : ℕ) :
    Except String ValidatedPermissionRequest := do
  let raw ← Except.require (input.get "requestId").asString? "permission_request_id_required"
  let requestId := JsString.trim raw
  Except.rejectWhen (requestId = "" ∨
    MAX_PERMISSION_REQUEST_ID_LENGTH < JsString.utf16Length requestId ∨
    isRequestIdPattern requestId = false) "invalid_permission_request_id"
  let toolCall ← validateToolCall (input.get "toolCall")
  let options ← validateOptions (input.get "options")
  let lifetime ← permissionLifetime (input.get "expiresInMs")
  let taskRequestId ← permissionTask (input.get "taskRequestId")
  return { requestId, toolCall, options, expiresAt := now + lifetime.toNat, taskRequestId }

/-! ## Requests in the Room -/

/-- What identifies a request when it is retried: everything but its times. -/
def permissionRequestFingerprint (event : PermissionEvent) (taskRequestId : Option String) :
    String × String × Option String × PermissionEventBody :=
  (event.requestId, event.agentParticipantId, taskRequestId, event.kind)

/-- Whether a request repeats an earlier one. -/
def pendingPermissionRequestIsEquivalent (recorded : PermissionEvent)
    (recordedTask : Option String) (event : PermissionEvent) (taskRequestId : Option String) :
    Bool :=
  permissionRequestFingerprint recorded recordedTask =
    permissionRequestFingerprint event taskRequestId

/-- The permission event of a message, if it is a permission message. -/
def permissionEventForMessage (message : RoomMessage) : Option PermissionEvent :=
  if message.actionType = some "permission" then message.permission else none

/-- Whether an event asks for a permission. -/
def PermissionEvent.isRequest (event : PermissionEvent) : Bool := !event.isTerminal

/-- Whether a message is a permission event about a request. -/
def isPermissionMessage (requestId : String) (message : RoomMessage) : Bool :=
  (permissionEventForMessage message).any fun event => event.requestId = requestId

/-- Whether a message asks for the permission of a request. -/
def isPermissionRequestMessage (requestId : String) (message : RoomMessage) : Bool :=
  (permissionEventForMessage message).any fun event =>
    event.requestId = requestId && event.isRequest

/-- The message by which a permission event is appended. The log allocates its sequence. -/
def permissionMessage (peerId name : String) (kind : ParticipantKind) (event : PermissionEvent)
    (taskRequestId : Option String) (createdAt : ℕ) : RoomMessage :=
  { peerId, name, kind, type := .action, actionType := some "permission"
    permission := some event, taskRequestId, targets := some [event.agentParticipantId]
    createdAt, sequence := 0 }

namespace RoomRecord

variable (env : RoomEnv)

/-- The most recent retained event about a permission request, with its Task. -/
def latestPermissionRequest (room : RoomRecord) (requestId : String) :
    Option (PermissionEvent × Option String) :=
  (room.messages.reverse.find? (isPermissionMessage requestId)).bind fun message =>
    (permissionEventForMessage message).map fun event => (event, message.taskRequestId)

/-- The most recent retained event about a permission request. -/
def latestPermissionEvent (room : RoomRecord) (requestId : String) : Option PermissionEvent :=
  (room.latestPermissionRequest requestId).map Prod.fst

/-- Whether a pending request has to expire: its time is over, or its Agent departs or is gone. -/
def permissionShouldExpire (room : RoomRecord) (departedAgentParticipantId : Option String)
    (record : PermissionRequestRecord) : Bool :=
  departedAgentParticipantId = some record.agentParticipantId ||
    record.event.expiresAt ≤ env.now ||
    !((room.participants.get? record.agentParticipantId).any (·.kind = .agent))

/-- The terminal message of a request that expires. -/
def expiredPermissionMessage (room : RoomRecord) (record : PermissionRequestRecord) :
    RoomMessage :=
  permissionMessage record.agentParticipantId
    (((room.participants.get? record.agentParticipantId).map (·.name)).getD "Agent") .agent
    { requestId := record.requestId
      agentParticipantId := record.agentParticipantId
      createdAt := env.now
      expiresAt := record.event.expiresAt
      kind := .expired }
    record.taskRequestId env.now

/-- Removes a pending request. -/
def removePermission (room : RoomRecord) (requestId : String) : RoomRecord :=
  { room with permissionRequests := room.permissionRequests.erase requestId }

/-- Expires one pending request. A request whose terminal is retained gets no second one. -/
def expirePermissionRequest (room : RoomRecord) (record : PermissionRequestRecord) :
    RoomRecord :=
  let removed := room.removePermission record.requestId
  if (room.latestPermissionEvent record.requestId).any PermissionEvent.isTerminal then removed
  else removed.appendMessage env (room.expiredPermissionMessage env record)

/-- Expires the pending requests that have to, oldest first. -/
def expirePermissionRequests (room : RoomRecord) (departedAgentParticipantId : Option String) :
    RoomRecord :=
  (room.permissionRequests.values.filter
    (room.permissionShouldExpire env departedAgentParticipantId)).foldl
      (expirePermissionRequest env) room

/-- Whether a pending request has to expire. -/
def hasExpiringPermission (room : RoomRecord) (departedAgentParticipantId : Option String) :
    Bool :=
  room.permissionRequests.values.any
    (room.permissionShouldExpire env departedAgentParticipantId)

/-- How the Room answers a permission request that it accepts. -/
inductive PermissionIngest where
  -- The request is new, or its presentation is appended again.
  | recorded (room : RoomRecord)
  | replayed (room : RoomRecord)
  -- The request is a retry whose presentation is retained.
  | duplicate (sequence : ℕ)

/-- Whether an Agent may ask for a permission in the scope of a Task. -/
def checkPermissionTask (room : RoomRecord) (agent : RoomParticipant)
    (taskRequestId : Option String) : Except String Unit :=
  match taskRequestId with
  | none => .ok ()
  | some taskRequestId =>
    match resolveTaskRequest (buildTaskProjectionIndex room.messages room.participants)
        (.str taskRequestId) room.participants with
    | .error error => .error error
    | .ok task =>
      if agent.id ∈ task.agentParticipantIds then .ok ()
      else .error "permission_task_participant_mismatch"

/-- The record in which the presentation of a pending request is appended again. -/
def replayPermission (room : RoomRecord) (agent : RoomParticipant)
    (existing : PermissionRequestRecord) : RoomRecord :=
  let appended := room.appendMessage env
    (permissionMessage agent.id agent.name .agent existing.event existing.taskRequestId
      existing.event.createdAt)
  { appended with
    permissionRequests := appended.permissionRequests.set
      { existing with sequence := appended.nextMessageSequence } }

/-- Answers a request whose id is pending: a retry of the pending request, or a conflict. -/
def ingestPendingPermission (room : RoomRecord) (agent : RoomParticipant)
    (existing : PermissionRequestRecord) (event : PermissionEvent)
    (taskRequestId : Option String) : Except String PermissionIngest :=
  if !pendingPermissionRequestIsEquivalent existing.event existing.taskRequestId event
      taskRequestId then .error "permission_request_conflict"
  else
    match room.messages.find? fun message =>
        message.sequence = existing.sequence &&
          isPermissionRequestMessage event.requestId message with
    | some _ => .ok (.duplicate existing.sequence)
    -- The pending record outlives the log: its presentation is appended again.
    | none => .ok (.replayed (room.replayPermission env agent existing))

/-- Answers a request whose id is not pending but occurs in the log. -/
def ingestClosedPermission (room : RoomRecord) (previous : PermissionEvent)
    (previousTask : Option String) (event : PermissionEvent) (taskRequestId : Option String) :
    Except String PermissionIngest :=
  if previous.isTerminal then .error "permission_request_closed"
  else if !pendingPermissionRequestIsEquivalent previous previousTask event taskRequestId then
    .error "permission_request_conflict"
  else
    match room.messages.find? (isPermissionRequestMessage event.requestId) with
    | none => .error "permission_request_closed"
    | some message => .ok (.duplicate message.sequence)

/-- Admits a new permission request. -/
def admitPermission (room : RoomRecord) (agent : RoomParticipant) (event : PermissionEvent)
    (taskRequestId : Option String) : RoomRecord :=
  let appended := room.appendMessage env
    (permissionMessage agent.id agent.name .agent event taskRequestId event.createdAt)
  { appended with
    permissionRequests := appended.permissionRequests.set
      { requestId := event.requestId
        agentParticipantId := agent.id
        taskRequestId
        sequence := appended.nextMessageSequence
        event }
    admittedPermissions := appended.admittedPermissions ++ [event.requestId] }

/-- Answers an Agent's permission request. -/
def ingestPermissionRequest (room : RoomRecord) (agent : RoomParticipant) (input : JsValue) :
    Except String PermissionIngest := do
  let validated ← validatePermissionRequest input env.now
  room.checkPermissionTask agent validated.taskRequestId
  let event : PermissionEvent :=
    { requestId := validated.requestId
      agentParticipantId := agent.id
      createdAt := env.now
      expiresAt := validated.expiresAt
      kind := .request validated.toolCall validated.options }
  match room.permissionRequests.get? event.requestId with
  | some existing => room.ingestPendingPermission env agent existing event validated.taskRequestId
  | none =>
    match room.latestPermissionRequest event.requestId with
    | some (previous, previousTask) =>
      room.ingestClosedPermission previous previousTask event validated.taskRequestId
    | none =>
      if MAX_PENDING_PERMISSION_REQUESTS ≤ room.permissionRequests.size then
        .error "too_many_pending_permissions"
      else .ok (.recorded (room.admitPermission env agent event validated.taskRequestId))

variable {env} in
lemma ingestPermissionRequest_eq_recorded {room room' : RoomRecord} {agent : RoomParticipant}
    {input : JsValue} (h : room.ingestPermissionRequest env agent input = .ok (.recorded room')) :
    ∃ validated, validatePermissionRequest input env.now = .ok validated ∧
      room.permissionRequests.get? validated.requestId = none ∧
      room.latestPermissionRequest validated.requestId = none ∧
      room.permissionRequests.size < MAX_PENDING_PERMISSION_REQUESTS ∧
      room' = room.admitPermission env agent
        { requestId := validated.requestId
          agentParticipantId := agent.id
          createdAt := env.now
          expiresAt := validated.expiresAt
          kind := .request validated.toolCall validated.options } validated.taskRequestId := by
  simp only [ingestPermissionRequest, Except.bind_eq_ok] at h
  obtain ⟨validated, hvalid, -, -, h⟩ := h
  refine ⟨validated, hvalid, ?_⟩
  split at h
  · simp only [ingestPendingPermission] at h
    split at h
    · cases h
    · split at h <;> simp at h
  · rename_i hpending
    split at h
    · simp only [ingestClosedPermission] at h
      split at h
      · cases h
      · split at h
        · cases h
        · split at h <;> simp at h
    · rename_i hlatest
      split at h
      · cases h
      · rename_i hsize
        simp only [Except.ok.injEq, PermissionIngest.recorded.injEq] at h
        exact ⟨hpending, hlatest, Nat.lt_of_not_le hsize, h.symm⟩

variable {env} in
lemma ingestPermissionRequest_eq_replayed {room room' : RoomRecord} {agent : RoomParticipant}
    {input : JsValue} (h : room.ingestPermissionRequest env agent input = .ok (.replayed room')) :
    ∃ existing ∈ room.permissionRequests.values,
      existing.event.agentParticipantId = agent.id ∧
        room' = room.replayPermission env agent existing := by
  simp only [ingestPermissionRequest, Except.bind_eq_ok] at h
  obtain ⟨validated, -, -, -, h⟩ := h
  split at h
  · rename_i existing hpending
    refine ⟨existing, KeyedMap.mem_of_get? hpending, ?_⟩
    simp only [ingestPendingPermission] at h
    split at h
    · cases h
    · rename_i hequiv
      split at h
      · simp at h
      · simp only [Except.ok.injEq, PermissionIngest.replayed.injEq] at h
        refine ⟨?_, h.symm⟩
        simp only [pendingPermissionRequestIsEquivalent, permissionRequestFingerprint,
          Prod.mk.injEq, Bool.not_eq_true', decide_eq_false_iff_not, not_not] at hequiv
        exact hequiv.2.1
  · split at h
    · simp only [ingestClosedPermission] at h
      split at h
      · cases h
      · split at h
        · cases h
        · split at h <;> simp at h
    · split at h <;> simp at h

/-- Whether an option is among those of a request. -/
def offersOption (record : PermissionRequestRecord) (selectedOptionId : String) : Bool :=
  match record.event.kind with
  | .request _ options => options.any fun option => option.optionId = selectedOptionId
  | _ => false

/-- The record in which a Human has resolved a pending request. -/
def resolvePermission (room : RoomRecord) (human : RoomParticipant)
    (record : PermissionRequestRecord) (selectedOptionId : String) : RoomRecord :=
  (room.removePermission record.requestId).appendMessage env
    (permissionMessage human.id human.name .human
      { requestId := record.requestId
        agentParticipantId := record.agentParticipantId
        createdAt := env.now
        expiresAt := record.event.expiresAt
        kind := .resolved selectedOptionId human.id human.name }
      record.taskRequestId env.now)

/-- Answers a Human's response: the record to save, if any, and the error reported to the Human,
if any. A response that comes too late first commits the expiry. -/
def ingestPermissionResponse (room : RoomRecord) (human : RoomParticipant)
    (requestId selectedOptionId : String) : Option RoomRecord × Option String :=
  match room.permissionRequests.get? requestId with
  | none =>
    (none, some (if (room.latestPermissionEvent requestId).isSome then "permission_request_closed"
      else "unknown_permission_request"))
  | some record =>
    let expired := room.expirePermissionRequests env (some record.agentParticipantId)
    if record.event.expiresAt ≤ env.now then (some expired, some "permission_request_expired")
    else if !offersOption record selectedOptionId then (none, some "invalid_permission_option")
    else if !((room.participants.get? record.agentParticipantId).any (·.kind = .agent)) then
      (some expired, some "permission_request_target_left")
    else (some (room.resolvePermission env human record selectedOptionId), none)

end RoomRecord

end Free4Chat
