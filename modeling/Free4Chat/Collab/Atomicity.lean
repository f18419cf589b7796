import Free4Chat.Collab.Ingest
import Free4Chat.Collab.Replay

/-!
# Failing Ingestions

What an ingestion does, in two cases: an envelope that is not new changes nothing, and a new one is
recorded in the registry before its message is saved. An ingestion whose save is rejected leaves
the registry changed, so that the envelope is answered as a duplicate when it is sent again.

* `CollabEnvelope.newEvent`: the event that an envelope asks to append.
* `CollabEnvelope.ingest_of_newEvent`: what an ingestion of a new envelope does.
* `atomicOnFailure_iff`: exactly when a failing ingestion leaves no trace.
-/

namespace Free4Chat

/-- The event of a request that is valid and not tracked yet. -/
def newRequest (room : RoomRecord) (registry : CollabRegistry) (sender : RoomParticipant)
    (input : JsValue) (generatedRequestId : String) : Option CollabEvent :=
  (validateCollabEvent (.str "request") input sender.id room.participants room.attachments
    generatedRequestId).toOption.filter fun event => (registry.find event.requestId).isNone

/-- The event of a response that is valid and a new answer to a tracked request. -/
def newResponse (room : RoomRecord) (registry : CollabRegistry) (responder : RoomParticipant)
    (input : JsValue) (generatedRequestId : String) : Option CollabEvent :=
  ((validateCollabEvent (input.get "kind") input responder.id room.participants room.attachments
    generatedRequestId).toOption.filter fun event =>
      registry.precheckResponse event.requestId event.kind responder.id = .record).bind
    fun event => (registry.routingFor event.requestId responder.id).map fun routing =>
      { event with fromParticipantId := routing.1, targetParticipantId := routing.2 }

/-- The participant that sends an envelope. -/
def CollabEnvelope.sender : CollabEnvelope → RoomParticipant
  | .request sender _ _ => sender
  | .response responder _ _ => responder

/-- The event that an envelope asks to append. There is none when the envelope is invalid, was
accepted before, or is no answer to a tracked request. -/
def CollabEnvelope.newEvent (room : RoomRecord) (registry : CollabRegistry) :
    CollabEnvelope → Option CollabEvent
  | .request sender input generatedRequestId =>
    newRequest room registry sender input generatedRequestId
  | .response responder input generatedRequestId =>
    newResponse room registry responder input generatedRequestId

/-- The registry once the event of an envelope is recorded. -/
def CollabEnvelope.record (registry : CollabRegistry) (event : CollabEvent) (sequence : ℕ) :
    CollabEnvelope → CollabRegistry
  | .request .. => (registry.recordRequest event sequence).2
  | .response .. => registry.commitResponse event.requestId event.kind sequence

variable {event : CollabEvent} {registry : CollabRegistry} {generatedRequestId : String}

lemma newRequest_eq_some {room : RoomRecord} {sender : RoomParticipant} {input : JsValue} :
    newRequest room registry sender input generatedRequestId = some event ↔
      validateCollabEvent (.str "request") input sender.id room.participants room.attachments
        generatedRequestId = .ok event ∧ registry.find event.requestId = none := by
  rw [newRequest, Option.filter_eq_some_iff, Except.toOption_eq_some, Option.isNone_iff_eq_none]

lemma newResponse_eq_some {room : RoomRecord} {responder : RoomParticipant} {input : JsValue} :
    newResponse room registry responder input generatedRequestId = some event ↔
      ∃ validated record,
        validateCollabEvent (input.get "kind") input responder.id room.participants
          room.attachments generatedRequestId = .ok validated ∧
        registry.find validated.requestId = some record ∧
        responder.id = record.targetParticipantId ∧
        record.sequenceOf? validated.kind = none ∧
        event = { validated with
          fromParticipantId := record.targetParticipantId
          targetParticipantId := record.fromParticipantId } := by
  rw [newResponse, Option.bind_eq_some_iff]
  simp only [Option.filter_eq_some_iff, Except.toOption_eq_some, decide_eq_true_eq,
    CollabRegistry.precheckResponse_eq_record]
  constructor
  · rintro ⟨validated, ⟨hvalid, record, hfind, hroute, hnone⟩, hevent⟩
    rw [CollabRegistry.routingFor_eq_some hfind hroute, Option.map_some] at hevent
    exact ⟨validated, record, hvalid, hfind, hroute, hnone, (Option.some.inj hevent).symm⟩
  · rintro ⟨validated, record, hvalid, hfind, hroute, hnone, rfl⟩
    refine ⟨validated, ⟨hvalid, record, hfind, hroute, hnone⟩, ?_⟩
    rw [CollabRegistry.routingFor_eq_some hfind hroute, Option.map_some]

namespace CollabEnvelope

variable (env : RoomEnv) {room : RoomRecord} {tracking : CollabTracking}
  {envelope : CollabEnvelope}

lemma ingest_of_newEvent_eq_none
    (h : envelope.newEvent room (tracking.warm room).collabRegistry = none) :
    ∃ answer ≠ CollabIngest.failed,
      envelope.ingest env room tracking = { answer, tracking := tracking.warm room } := by
  cases envelope with
  | request sender input generatedRequestId =>
    simp only [ingest, ingestCollabWorkRequest]
    split
    · exact ⟨.rejected _, (fun h => by cases h), rfl⟩
    · rename_i event hvalid
      cases hfind : (tracking.warm room).collabRegistry.find event.requestId with
      | none =>
        have hsome : newRequest room (tracking.warm room).collabRegistry sender input
            generatedRequestId = some event := newRequest_eq_some.mpr ⟨hvalid, hfind⟩
        rw [newEvent, hsome] at h
        cases h
      | some record =>
        simp only [CollabRegistry.recordRequest, hfind]
        exact ⟨.duplicate _ _, (fun h => by cases h), rfl⟩
  | response responder input generatedRequestId =>
    simp only [ingest, ingestCollabResponse]
    split
    · exact ⟨.rejected _, (fun h => by cases h), rfl⟩
    · rename_i event hvalid
      split
      · exact ⟨.rejected _, (fun h => by cases h), rfl⟩
      · exact ⟨.duplicate _ _, (fun h => by cases h), rfl⟩
      · rename_i hprecheck
        obtain ⟨record, hfind, hroute, hnone⟩ :=
          CollabRegistry.precheckResponse_eq_record.mp hprecheck
        -- The response would be new.
        have hsome := newResponse_eq_some.mpr ⟨event, record, hvalid, hfind, hroute, hnone, rfl⟩
        rw [newEvent, hsome] at h
        cases h

lemma ingest_of_newEvent {event : CollabEvent}
    (h : envelope.newEvent room (tracking.warm room).collabRegistry = some event) :
    envelope.ingest env room tracking =
      appendCollabEvent env room
        { tracking.warm room with
          collabRegistry := envelope.record (tracking.warm room).collabRegistry event
            (room.nextMessageSequence + 1) } envelope.sender event := by
  cases envelope with
  | request requester input generatedRequestId =>
    obtain ⟨hvalid, hnew⟩ := newRequest_eq_some.mp h
    simp only [ingest, ingestCollabWorkRequest, hvalid, record, sender,
      CollabRegistry.recordRequest_of_new _ hnew]
  | response responder input generatedRequestId =>
    obtain ⟨validated, tracked, hvalid, hfind, hroute, hnone, rfl⟩ := newResponse_eq_some.mp h
    have hprecheck :=
      CollabRegistry.precheckResponse_eq_record.mpr ⟨tracked, hfind, hroute, hnone⟩
    simp only [ingest, ingestCollabResponse, hvalid, hprecheck, record, sender,
      CollabRegistry.routingFor_eq_some hfind hroute]

end CollabEnvelope

lemma appendCollabEvent_of_save {env : RoomEnv} {room saved : RoomRecord}
    {tracking : CollabTracking} {sender : RoomParticipant}
    (hsave : (room.appendMessage env (collabMessage sender event env.now)).saveRoom env =
      some saved) : appendCollabEvent env room tracking sender event =
      { answer := .recorded (room.nextMessageSequence + 1) event, tracking,
        saved := some saved } := by
  simp only [appendCollabEvent, hsave]

/-! ## Atomicity -/

/-- An ingestion that fails leaves no trace: nothing is stored, the registry answers as before, and
the envelope is answered as if it had not been sent before. -/
def AtomicOnFailure (env : RoomEnv) (room : RoomRecord) (tracking : CollabTracking)
    (envelope : CollabEnvelope) : Prop :=
  (envelope.ingest env room tracking).answer = .failed →
    (envelope.ingest env room tracking).saved = none ∧
      (∀ id, (envelope.ingest env room tracking).tracking.collabRegistry.find id =
        (tracking.warm room).collabRegistry.find id) ∧
      ∀ retryEnv, (envelope.ingest retryEnv room
        (envelope.ingest env room tracking).tracking).answer =
          (envelope.ingest retryEnv room tracking).answer

/-- The message that an envelope asks to append can be saved, if it asks for one. -/
def SavesWhatIsNew (env : RoomEnv) (room : RoomRecord) (tracking : CollabTracking)
    (envelope : CollabEnvelope) : Prop :=
  ∀ event, envelope.newEvent room (tracking.warm room).collabRegistry = some event →
    ((room.appendMessage env (collabMessage envelope.sender event env.now)).saveRoom env).isSome

lemma CollabEnvelope.find_record_ne {room : RoomRecord} {envelope : CollabEnvelope}
    (h : envelope.newEvent room registry = some event) (sequence : ℕ) :
    (envelope.record registry event sequence).find event.requestId ≠
      registry.find event.requestId := by
  cases envelope with
  | request requester input generatedRequestId =>
    obtain ⟨-, hnew⟩ := newRequest_eq_some.mp h
    rw [record, registry.find_recordRequest_self hnew, hnew]
    nofun
  | response responder input generatedRequestId =>
    obtain ⟨validated, tracked, -, hfind, -, hnone, rfl⟩ := newResponse_eq_some.mp h
    rw [record, registry.find_commitResponse, if_pos rfl, hfind, Option.map_some]
    intro heq
    have hsequence := congrArg (fun record => record.sequenceOf? validated.kind)
      (Option.some.inj heq)
    simp [hnone] at hsequence

/-- **Atomicity on failure.** An ingestion leaves no trace when it fails if and only if it does not
fail: the envelope is not new, or its message can be saved. -/
theorem atomicOnFailure_iff (env : RoomEnv) (room : RoomRecord) (tracking : CollabTracking)
    (envelope : CollabEnvelope) :
    AtomicOnFailure env room tracking envelope ↔ SavesWhatIsNew env room tracking envelope := by
  cases hnew : envelope.newEvent room (tracking.warm room).collabRegistry with
  | none =>
    obtain ⟨answer, hanswer, hingest⟩ := CollabEnvelope.ingest_of_newEvent_eq_none env hnew
    rw [AtomicOnFailure, hingest]
    refine iff_of_true (fun hfailed => absurd hfailed hanswer) ?_
    intro event h
    rw [hnew] at h
    cases h
  | some event =>
    have hingest := CollabEnvelope.ingest_of_newEvent env hnew
    rw [AtomicOnFailure, hingest, appendCollabEvent]
    cases hsave : (room.appendMessage env
        (collabMessage envelope.sender event env.now)).saveRoom env with
    | some saved =>
      refine iff_of_true (fun hfailed => nomatch hfailed) ?_
      intro event' h
      obtain rfl := Option.some.inj (hnew.symm.trans h)
      rw [hsave]
      rfl
    | none =>
      -- The registry keeps the record of a message that is not stored.
      refine iff_of_false (fun h => ?_) fun h => ?_
      · exact envelope.find_record_ne hnew _ ((h rfl).2.1 event.requestId)
      · have hsome := h event hnew
        rw [hsave] at hsome
        cases hsome

/-! ## A rejected save -/

/-- An environment in which every record is within its budget. -/
def fixedEnv (storageAccepts : Bool) : RoomEnv :=
  { now := 1000
    now_pos := by decide
    agentMediaEnabled := false
    primaryRoomBytes := fun _ => 0
    storageAccepts }

/-- An Agent of an example Room. -/
def exampleAgent (id : String) : RoomParticipant :=
  { id, name := id, kind := .agent, connected := true, joinedAt := 1000, lastSeenAt := 1000,
    token := "token" }

/-- A Room with two Agents. -/
def exampleRoom : RoomRecord :=
  { createdAt := 1000
    expiresAt := NO_EXPIRY
    participants := (KeyedMap.empty.set (exampleAgent "agent-a")).set (exampleAgent "agent-b") }

/-- A work request. -/
def exampleRequest (requestId targetParticipantId : String) : JsValue :=
  .obj [("kind", .str "request"), ("requestId", .str requestId),
    ("targetParticipantId", .str targetParticipantId), ("summary", .str "draft the notes")]

/-- When storage rejects the save of a request, sending the request again is answered as a
duplicate of a message that is not stored. -/
theorem not_atomicOnFailure_rejectedSave :
    ¬ ∀ env room tracking envelope, AtomicOnFailure env room tracking envelope := by
  intro hall
  have hatomic := hall (fixedEnv false) exampleRoom {}
    (.request (exampleAgent "agent-a") (exampleRequest "task-1" "agent-b") "task-1")
    (by decide +kernel)
  have hretry := hatomic.2.2 (fixedEnv true)
  revert hretry
  decide +kernel

end Free4Chat
