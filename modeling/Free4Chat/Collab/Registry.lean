import Free4Chat.Data.Fallible
import Free4Chat.Room.Normalize

/-!
# Collaboration Requests

Collaboration envelopes and the registry that correlates them. The registry lives in memory only:
it is bounded, it is lost when the Durable Object is evicted, and it is rebuilt from the retained
message log.

* `validateCollabEvent`: the envelope that an input describes.
* `CollabRegistry.recordRequest`: records a request, or recognises a retry.
* `CollabRegistry.precheckResponse` and `CollabRegistry.commitResponse`: a response or result.
* `CollabRegistry.rebuild`: replays the retained log.
-/

namespace Free4Chat

/-! ## Validation -/

def COLLAB_ACTION_TYPE : String := "collab"
def MAX_COLLAB_SUMMARY_LENGTH : ℕ := 1200
def MAX_COLLAB_DETAILS_ENTRIES : ℕ := 16
def MAX_COLLAB_DETAIL_KEY_LENGTH : ℕ := 64
def MAX_COLLAB_DETAIL_VALUE_LENGTH : ℕ := 512
def MAX_COLLAB_ATTACHMENT_REFS : ℕ := 3

/-- The kind that a name denotes. -/
def parseCollabKind (value : JsValue) : Option CollabEventKind :=
  match value with
  | .str "request" => some .request
  | .str "accepted" => some .accepted
  | .str "declined" => some .declined
  | .str "completed" => some .completed
  | .str "failed" => some .failed
  | _ => none

/-- The optional details of an envelope. -/
def validateCollabDetails (value : JsValue) : Except String (Option (List (String × String))) :=
  match value with
  | .undefined => .ok none
  | value =>
    match value.asRecord? with
    | none => .error "invalid_details"
    | some entries =>
      if MAX_COLLAB_DETAILS_ENTRIES < entries.length then .error "too_many_details"
      else
        let parsed := entries.mapM fun (key, rawValue) =>
          (rawValue.asString?.filter fun text =>
            key ≠ "" && JsString.utf16Length key ≤ MAX_COLLAB_DETAIL_KEY_LENGTH &&
              JsString.utf16Length text ≤ MAX_COLLAB_DETAIL_VALUE_LENGTH).map fun text =>
                (key, text)
        match parsed with
        | none => .error "invalid_detail_entry"
        | some details => .ok (some details)

/-- Whether an envelope may refer to an attachment: it exists, and it belongs to no Task or to the
Task of the envelope. -/
def checkAttachmentRef (attachments : List RoomAttachment) (requestId id : String) :
    Except String Unit :=
  match attachments.find? fun candidate => candidate.id = id with
  | none => .error "unknown_attachment"
  | some attachment =>
    if attachment.taskRequestId.any (· ≠ requestId) then .error "attachment_task_mismatch"
    else .ok ()

/-- The optional attachment references of an envelope. -/
def validateCollabAttachmentRefs (value : JsValue) (attachments : List RoomAttachment)
    (requestId : String) : Except String (Option (List String)) :=
  match value with
  | .undefined => .ok none
  | value =>
    match value.asStringArray? with
    | none => .error "invalid_attachment_refs"
    | some ids =>
      if MAX_COLLAB_ATTACHMENT_REFS < ids.distinct.length then .error "too_many_attachment_refs"
      else (ids.distinct.forM (checkAttachmentRef attachments requestId)).map
        fun _ => some ids.distinct

/-- A summary, trimmed and bounded. A blank one counts as absent. -/
def boundedSummary (value : JsValue) : Option String :=
  (JsString.nonempty? (value.asString?.map JsString.trim)).map fun trimmed =>
    JsString.slice trimmed MAX_COLLAB_SUMMARY_LENGTH

/-- The string a value is, trimmed, or the empty string. -/
def trimmedString (value : JsValue) : String := JsString.trim (value.asString?.getD "")

/-- Validates an envelope of a kind against the Room. A request may leave out its id, which is then
`generatedRequestId`. The endpoints of a response are filled in from the tracked request. -/
def validateCollabEvent (kind : JsValue) (input : JsValue) (senderParticipantId : String)
    (participants : Participants) (attachments : List RoomAttachment)
    (generatedRequestId : String) : Except String CollabEvent := do
  let kind ← Except.require (parseCollabKind kind) "invalid_collab_kind"
  let given := trimmedString (input.get "requestId")
  let requestId := if given = "" ∧ kind = .request then generatedRequestId else given
  Except.rejectWhen (isRequestIdPattern requestId = false) "invalid_request_id"
  let targetParticipantId := trimmedString (input.get "targetParticipantId")
  let targetConnected := (participants.get? targetParticipantId).any (·.connected)
  let summary := boundedSummary (input.get "summary")
  Except.rejectWhen (kind = .request ∧ targetConnected = false) "target_not_in_room"
  Except.rejectWhen (kind = .request ∧ targetParticipantId = senderParticipantId) "self_request"
  Except.rejectWhen (kind = .request ∧ summary = none) "summary_required"
  Except.rejectWhen (kind ≠ .request ∧ targetParticipantId ≠ "" ∧ targetConnected = false)
    "target_not_in_room"
  let details ← validateCollabDetails (input.get "details")
  let attachmentIds ← validateCollabAttachmentRefs (input.get "attachmentIds") attachments requestId
  return {
    requestId
    kind
    fromParticipantId := if kind = .request then senderParticipantId else ""
    targetParticipantId := if kind = .request then targetParticipantId else ""
    summary
    details
    attachmentIds }

lemma validateCollabEvent_eq_ok {kind input : JsValue} {senderParticipantId : String}
    {participants : Participants} {attachments : List RoomAttachment} {generatedRequestId : String}
    {event : CollabEvent} (h : validateCollabEvent kind input senderParticipantId participants
      attachments generatedRequestId = .ok event) : parseCollabKind kind = some event.kind ∧
      (event.kind = .request → event.fromParticipantId = senderParticipantId ∧
        event.targetParticipantId = trimmedString (input.get "targetParticipantId")) := by
  simp only [validateCollabEvent, Except.bind_eq_ok, Except.require_eq_ok,
    Except.pure_eq_ok] at h
  obtain ⟨kind, hkind, -, -, -, -, -, -, -, -, -, -, details, -, attachmentIds, -, rfl⟩ := h
  refine ⟨hkind, fun hrequest => ?_⟩
  simp only at hrequest
  simp [hrequest]

-- Clients use the lemma above; evaluating a validation inside a larger match is slow.
attribute [irreducible] validateCollabEvent

/-! ## The registry -/

/-- What the registry knows of one request: its endpoints, and the sequence of each of its steps
that has been accepted. -/
structure CollabRequestRecord where
  requestId : String
  fromParticipantId : String
  targetParticipantId : String
  sequenceByKind : KeyedMap (CollabEventKind × ℕ) := .empty
deriving DecidableEq

instance : Keyed CollabRequestRecord String where
  key := CollabRequestRecord.requestId

@[simp]
lemma CollabRequestRecord.key_eq (record : CollabRequestRecord) :
    Keyed.key record = record.requestId := rfl

/-- The sequence at which a step of a request was accepted. -/
def CollabRequestRecord.sequenceOf? (record : CollabRequestRecord) (kind : CollabEventKind) :
    Option ℕ :=
  (record.sequenceByKind.get? kind).map Prod.snd

/-- The record with the sequence of a step. -/
def CollabRequestRecord.withSequence (record : CollabRequestRecord) (kind : CollabEventKind)
    (sequence : ℕ) : CollabRequestRecord :=
  { record with sequenceByKind := record.sequenceByKind.set (kind, sequence) }

/-- The tracked requests, oldest first. -/
structure CollabRegistry where
  requests : KeyedMap CollabRequestRecord := .empty
deriving DecidableEq

/-- Number of requests that a registry tracks. -/
def MAX_TRACKED_REQUESTS : ℕ := 128

/-- The answer to an envelope. -/
inductive CollabRegistryOutcome where
  | recorded (sequence : ℕ)
  | duplicate (sequence : ℕ)
  | rejected (error : String)
deriving DecidableEq, Repr

/-- The answer to a response before anything is appended. -/
inductive CollabPrecheck where
  | record
  | duplicate (sequence : ℕ)
  | rejected (error : String)
deriving DecidableEq, Repr

/-- Drops values from the oldest end until there is room for one more. -/
def dropWhileFull {α : Type} (bound : ℕ) : List α → List α
  | [] => []
  | value :: values =>
    if bound ≤ (value :: values).length then dropWhileFull bound values else value :: values

lemma dropWhileFull_suffix {α : Type} (bound : ℕ) (values : List α) :
    dropWhileFull bound values <:+ values := by
  induction values with
  | nil => exact List.suffix_rfl
  | cons value values ih =>
    rw [dropWhileFull]
    split
    · exact ih.trans (List.suffix_cons value values)
    · exact List.suffix_rfl

namespace CollabRegistry

/-- The tracked request with an id. -/
def find (registry : CollabRegistry) (requestId : String) : Option CollabRequestRecord :=
  registry.requests.get? requestId

/-- Drops all tracking. -/
def clear (_registry : CollabRegistry) : CollabRegistry := {}

/-- Drops the oldest requests until there is room for one more. -/
def evictWhileFull (registry : CollabRegistry) : CollabRegistry :=
  { requests := ⟨dropWhileFull MAX_TRACKED_REQUESTS registry.requests.values,
      registry.requests.nodup.sublist
        (List.Sublist.map _ (dropWhileFull_suffix _ _).sublist)⟩ }

/-- Records a new request. A repeated id is answered with the sequence recorded for it, whoever
sends it and to whomever it is addressed. -/
def recordRequest (registry : CollabRegistry) (event : CollabEvent) (sequence : ℕ) :
    CollabRegistryOutcome × CollabRegistry :=
  match registry.find event.requestId with
  | some existing => (.duplicate ((existing.sequenceOf? .request).getD sequence), registry)
  | none =>
    let evicted := registry.evictWhileFull
    (.recorded sequence,
      { requests := evicted.requests.set
          { requestId := event.requestId
            fromParticipantId := event.fromParticipantId
            targetParticipantId := event.targetParticipantId
            sequenceByKind := KeyedMap.empty.set (.request, sequence) } })

/-- Decides a response before anything is appended. -/
def precheckResponse (registry : CollabRegistry) (requestId : String) (kind : CollabEventKind)
    (responderParticipantId : String) : CollabPrecheck :=
  match registry.find requestId with
  | none => .rejected "unknown_request"
  | some record =>
    if responderParticipantId ≠ record.targetParticipantId then .rejected "not_request_target"
    else
      match record.sequenceOf? kind with
      | some existing => .duplicate existing
      | none => .record

variable {registry : CollabRegistry}

lemma precheckResponse_eq_record {requestId : String}
    {kind : CollabEventKind} {responderParticipantId : String} :
    registry.precheckResponse requestId kind responderParticipantId = .record ↔
      ∃ record, registry.find requestId = some record ∧
        responderParticipantId = record.targetParticipantId ∧ record.sequenceOf? kind = none := by
  unfold precheckResponse
  cases registry.find requestId with
  | none => simp
  | some record =>
    by_cases hroute : responderParticipantId = record.targetParticipantId
    · cases hknown : record.sequenceOf? kind <;> simp [hroute, hknown]
    · simp [hroute]

/-- Commits the sequence of a response that was prechecked. -/
def commitResponse (registry : CollabRegistry) (requestId : String) (kind : CollabEventKind)
    (sequence : ℕ) : CollabRegistry :=
  { requests := registry.requests.modify requestId
      (fun record => record.withSequence kind sequence) fun _ => rfl }

/-- Checks and commits a response of the log. -/
def recordResponse (registry : CollabRegistry) (event : CollabEvent)
    (responderParticipantId : String) (sequence : ℕ) : CollabRegistryOutcome × CollabRegistry :=
  match registry.precheckResponse event.requestId event.kind responderParticipantId with
  | .rejected error => (.rejected error, registry)
  | .duplicate existing => (.duplicate existing, registry)
  | .record =>
    (.recorded sequence, registry.commitResponse event.requestId event.kind sequence)

/-- The endpoints of a response, from the tracked request: it goes back to the requester. -/
def routingFor (registry : CollabRegistry) (requestId responderParticipantId : String) :
    Option (String × String) :=
  ((registry.find requestId).filter fun record =>
    responderParticipantId = record.targetParticipantId).map fun record =>
      (responderParticipantId, record.fromParticipantId)

lemma routingFor_eq_some {requestId responderParticipantId : String}
    {record : CollabRequestRecord} (hfind : registry.find requestId = some record)
    (hroute : responderParticipantId = record.targetParticipantId) :
    registry.routingFor requestId responderParticipantId =
      some (record.targetParticipantId, record.fromParticipantId) := by
  simp [routingFor, hfind, hroute]

/-! ## Rebuilding -/

/-- Replays one entry of a request's log. -/
def replayEntry (requestId : String) (registry : CollabRegistry) (entry : CollabEvent × ℕ) :
    CollabRegistry :=
  if entry.1.kind = .request then
    { requests := registry.requests.modify requestId
        (fun record =>
          if (record.sequenceOf? .request).isNone then record.withSequence .request entry.2
          else record) fun record => by split <;> rfl }
  else (registry.recordResponse entry.1 entry.1.fromParticipantId entry.2).2

/-- Replays the log of one request. Without a retained request it is left out, so that responses
alone never decide its endpoints. -/
def replayRequest (entries : List (CollabEvent × ℕ)) (registry : CollabRegistry)
    (requestId : String) : CollabRegistry :=
  let log := entries.filter fun entry => entry.1.requestId = requestId
  match log.find? fun entry => entry.1.kind = .request with
  | none => registry
  | some (request, _) =>
    log.foldl (replayEntry requestId)
      { requests := registry.requests.set
          { requestId
            fromParticipantId := request.fromParticipantId
            targetParticipantId := request.targetParticipantId } }

/-- Replays the retained log: the newest requests, by their first retained entry. -/
def rebuild (registry : CollabRegistry) (entries : List (CollabEvent × ℕ)) : CollabRegistry :=
  (takeLast MAX_TRACKED_REQUESTS (entries.map fun entry => entry.1.requestId).distinct).foldl
    (replayRequest entries) registry

end CollabRegistry

/-- The collaboration entry of a message, if it is one. -/
def collabEntry? (message : RoomMessage) : Option (CollabEvent × ℕ) :=
  if message.actionType = some COLLAB_ACTION_TYPE then
    message.collab.map fun event => (event, message.sequence)
  else none

/-- The collaboration entries of a log. -/
def collabEntries (messages : List RoomMessage) : List (CollabEvent × ℕ) :=
  messages.filterMap collabEntry?

end Free4Chat
