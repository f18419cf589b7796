import Free4Chat.Resident.AgentSocket

/-!
# Executions of Tasks

What the Runtimes of a Room last said about the Tasks they execute. The instance keeps it in memory,
and the active turns also in the attachments of the resident sockets, where they survive the
hibernation of the Room.

* `TaskExecutions.taskExecutionFor` and `TaskExecutions.taskExecutionsForRequest`: what is known.
* `recordAttachmentActiveTaskTurn`: what a socket remembers.
* `ActiveTurn`: a turn that is active, and `taskExecutionsForRequest_active`: the known executions
  with a current turn are the active turns.
-/

namespace Free4Chat

/-- An execution is kept by its Agent and its Task. -/
instance : Keyed TaskExecutionProjection (String × String) where
  key execution := (execution.agentParticipantId, execution.taskRequestId)

@[simp]
lemma TaskExecutionProjection.key_eq (execution : TaskExecutionProjection) :
    Keyed.key execution = (execution.agentParticipantId, execution.taskRequestId) := rfl

/-- What is known of the executions in a Room: the memory of the instance and the sockets. -/
structure TaskExecutions where
  -- Memory of the running instance.
  transientTaskExecutions : KeyedMap TaskExecutionProjection := .empty
  sockets : AgentSockets := .empty

namespace TaskExecutions

variable (known : TaskExecutions) (room : RoomRecord)

/-- The attachment of the resident socket of an Agent. -/
def currentAgentEventAttachment (agentParticipantId : String) :
    Option AgentEventSocketAttachment :=
  (room.residentAttachments known.sockets agentParticipantId).head?

/-- The active turn that the resident socket of an Agent remembers. -/
def attachmentTaskExecution (agentParticipantId requestId : String) :
    Option TaskExecutionProjection :=
  ((known.currentAgentEventAttachment room agentParticipantId).bind fun attachment =>
    attachment.activeTaskTurns.find? fun turn => turn.taskRequestId = requestId).map fun turn =>
      { agentParticipantId
        taskRequestId := requestId
        currentTurnSequence := some turn.turnSequence
        phase := some .running
        queuedCount := 0
        lastOutcome := none
        availability := none }

/-- What is known of the execution of a Task by an Agent. The memory of the instance is newer than
the socket. -/
def taskExecutionFor (agentParticipantId requestId : String) : Option TaskExecutionProjection :=
  (known.transientTaskExecutions.get? (agentParticipantId, requestId)).or
    (known.attachmentTaskExecution room agentParticipantId requestId)

/-- The known executions of a Task by connected Agents. -/
def taskExecutionsForRequest (requestId : String) : List TaskExecutionProjection :=
  (room.participants.values.filter fun participant =>
    participant.kind = .agent && participant.connected).filterMap fun participant =>
      known.taskExecutionFor room participant.id requestId

/-- The known executions of a Task that have a current turn. -/
def activeExecutions (requestId : String) : List TaskExecutionProjection :=
  (known.taskExecutionsForRequest room requestId).filter (·.currentTurnSequence.isSome)

/-- The one current turn of a Task, if its executor is the given Agent. -/
def authoritativeTaskTurn (requestId executorAgentId : String) : Option ℤ :=
  match known.activeExecutions room requestId with
  | [execution] =>
    if execution.agentParticipantId = executorAgentId then execution.currentTurnSequence else none
  | _ => none

/-! ## Recording -/

/-- The turns that a socket remembers after an execution was published. The oldest are dropped
first. -/
def nextActiveTaskTurns (stored : List AgentEventActiveTaskTurn)
    (projection : TaskExecutionProjection) : List AgentEventActiveTaskTurn :=
  let others := stored.filter fun turn => turn.taskRequestId ≠ projection.taskRequestId
  match projection.currentTurnSequence with
  | none => others
  | some turnSequence =>
    others.drop (others.length - (MAX_ATTACHMENT_ACTIVE_TASK_TURNS - 1)) ++
      [{ taskRequestId := projection.taskRequestId, turnSequence }]

/-- Records the current turn of an execution in the resident socket of its Agent. A socket that
cannot be written keeps what it remembers. -/
def recordAttachmentActiveTaskTurn (participantId : String)
    (projection : TaskExecutionProjection) (writable : String → Bool) : TaskExecutions :=
  match (room.participants.get? participantId).filter (·.kind = .agent) with
  | none => known
  | some participant =>
    { known with
      sockets := known.sockets.map (fun attachment =>
        if RoomRecord.isResident participant attachment && writable attachment.connectionNonce then
          { deserializeAgentEventAttachment attachment with
            activeTaskTurns := nextActiveTaskTurns
              (deserializeAgentEventAttachment attachment).activeTaskTurns projection }
        else attachment) fun attachment => by
          split
          · exact deserialize_connectionNonce attachment
          · rfl }

/-- Accepts a published execution. -/
def agentTaskExecution (participantId token : String) (raw : JsValue) (writable : String → Bool) :
    TaskExecutions :=
  match (room.findAgent participantId token).toOption.filter (·.connected) with
  | none => known
  | some participant =>
    match normalizeTaskExecution room.messages room.participants participant raw with
    | none => known
    | some projection =>
      { known with
        transientTaskExecutions := known.transientTaskExecutions.set projection
        }.recordAttachmentActiveTaskTurn room participant.id projection writable

/-- Forgets the executions of an Agent whose connection was replaced or lost. -/
def clearAgentActivitiesForParticipant (participantId : String) : TaskExecutions :=
  { known with
    transientTaskExecutions := known.transientTaskExecutions.filter fun execution =>
      execution.agentParticipantId ≠ participantId }

end TaskExecutions

/-! ## Active turns -/

/-- A turn of a Task is active: a connected Agent last published it, or its resident socket
remembers it while the instance has no newer word of the Agent on the Task. -/
inductive ActiveTurn (room : RoomRecord) (known : TaskExecutions) (requestId agentId : String)
    (turn : ℤ) : Prop
  | published {agent : RoomParticipant} {execution : TaskExecutionProjection}
      (hagent : room.connectedAgent? agentId = some agent)
      (hknown : known.transientTaskExecutions.get? (agentId, requestId) = some execution)
      (hturn : execution.currentTurnSequence = some turn)
  | remembered {attachment : AgentEventSocketAttachment}
      (hunknown : known.transientTaskExecutions.get? (agentId, requestId) = none)
      (hresident : Resident room known.sockets agentId attachment)
      (hturn : ⟨requestId, turn⟩ ∈ (deserializeAgentEventAttachment attachment).activeTaskTurns)

/-- A socket remembers one turn of each Task at most. -/
def TurnsDistinct (sockets : AgentSockets) : Prop :=
  ∀ attachment ∈ sockets.values, (attachment.activeTaskTurns.map (·.taskRequestId)).Nodup

section Active

variable {room : RoomRecord} {known : TaskExecutions} {requestId agentId : String} {turn : ℤ}

lemma ActiveTurn.connected (h : ActiveTurn room known requestId agentId turn) :
    ∃ agent, room.connectedAgent? agentId = some agent := by
  cases h with
  | published hagent => exact ⟨_, hagent⟩
  | remembered _ hresident =>
    obtain ⟨agent, hget, hkind, hconnected, -⟩ := hresident.agent
    exact ⟨agent, RoomRecord.connectedAgent?_eq_some.mpr ⟨hget, hkind, hconnected⟩⟩

lemma currentAgentEventAttachment_eq_some {attachment : AgentEventSocketAttachment} :
    known.currentAgentEventAttachment room agentId = some attachment ↔
      ∃ stored, Resident room known.sockets agentId stored ∧
        attachment = deserializeAgentEventAttachment stored := by
  unfold TaskExecutions.currentAgentEventAttachment
  constructor
  · intro h
    exact mem_residentAttachments.mp (List.mem_of_head? h)
  · rintro ⟨stored, hresident, rfl⟩
    have hmem := mem_residentAttachments.mpr ⟨stored, hresident, rfl⟩
    cases hlist : room.residentAttachments known.sockets agentId with
    | nil =>
      rw [hlist] at hmem
      exact absurd hmem List.not_mem_nil
    | cons first rest =>
      -- There is one resident at most.
      have hfirst : first ∈ room.residentAttachments known.sockets agentId := by
        rw [hlist]
        exact List.mem_cons_self
      obtain ⟨stored', hresident', rfl⟩ := mem_residentAttachments.mp hfirst
      rw [hresident'.unique hresident, List.head?_cons]

lemma taskExecutionFor_active (hdistinct : TurnsDistinct known.sockets) {agent : RoomParticipant}
    (hagent : room.connectedAgent? agentId = some agent) :
    (∃ execution, known.taskExecutionFor room agentId requestId = some execution ∧
      execution.currentTurnSequence = some turn) ↔ ActiveTurn room known requestId agentId turn := by
  unfold TaskExecutions.taskExecutionFor
  cases hknown : known.transientTaskExecutions.get? (agentId, requestId) with
  | some execution =>
    rw [Option.some_or]
    constructor
    · rintro ⟨_, ⟨⟩, hturn⟩
      exact .published hagent hknown hturn
    · intro h
      cases h with
      | published _ hknown' hturn =>
        exact ⟨execution, rfl, Option.some.inj (hknown.symm.trans hknown') ▸ hturn⟩
      | remembered hunknown => cases hknown.symm.trans hunknown
  | none =>
    rw [Option.none_or, TaskExecutions.attachmentTaskExecution]
    constructor
    · rintro ⟨execution, hexecution, hturn⟩
      obtain ⟨remembered, hfind, rfl⟩ := Option.map_eq_some_iff.mp hexecution
      obtain ⟨attachment, hattachment, hfind⟩ := Option.bind_eq_some_iff.mp hfind
      obtain ⟨stored, hresident, rfl⟩ := currentAgentEventAttachment_eq_some.mp hattachment
      have hrequest : remembered.taskRequestId = requestId := by simpa using List.find?_some hfind
      refine .remembered hknown hresident ?_
      rw [← hrequest, ← Option.some.inj hturn]
      exact List.mem_of_find?_eq_some hfind
    · intro h
      cases h with
      | published _ hknown' => cases hknown.symm.trans hknown'
      | remembered _ hresident hturn =>
        rw [currentAgentEventAttachment_eq_some.mpr ⟨_, hresident, rfl⟩, Option.bind_some]
        have hnodup := (hdistinct _ hresident.stored).sublist
          ((deserialize_activeTaskTurns_sublist _).map (·.taskRequestId))
        cases hfind : List.find? (fun turn : AgentEventActiveTaskTurn =>
            turn.taskRequestId = requestId)
            (deserializeAgentEventAttachment _).activeTaskTurns with
        | none =>
          have hnone := List.find?_eq_none.mp hfind _ hturn
          simp at hnone
        | some remembered =>
          have hsame : remembered = ⟨requestId, turn⟩ :=
            List.inj_on_of_nodup_map hnodup (List.mem_of_find?_eq_some hfind) hturn
              (by simpa using List.find?_some hfind)
          exact ⟨_, rfl, by rw [hsame]⟩

variable {execution : TaskExecutionProjection}

lemma key_of_taskExecutionFor (h : known.taskExecutionFor room agentId requestId = some execution) :
    execution.agentParticipantId = agentId ∧ execution.taskRequestId = requestId := by
  unfold TaskExecutions.taskExecutionFor at h
  rcases Option.or_eq_some_iff.mp h with hknown | ⟨-, hremembered⟩
  · have hkey := KeyedMap.key_of_get? hknown
    rw [TaskExecutionProjection.key_eq, Prod.mk.injEq] at hkey
    exact hkey
  · obtain ⟨_, -, rfl⟩ := Option.map_eq_some_iff.mp hremembered
    exact ⟨rfl, rfl⟩

lemma mem_taskExecutionsForRequest : execution ∈ known.taskExecutionsForRequest room requestId ↔
      (∃ agent, room.connectedAgent? execution.agentParticipantId = some agent) ∧
        known.taskExecutionFor room execution.agentParticipantId requestId = some execution := by
  unfold TaskExecutions.taskExecutionsForRequest
  rw [List.mem_filterMap]
  constructor
  · rintro ⟨participant, hmem, hexecution⟩
    obtain ⟨hstored, hagent⟩ := List.mem_filter.mp hmem
    obtain ⟨hid, -⟩ := key_of_taskExecutionFor hexecution
    rw [Bool.and_eq_true, decide_eq_true_eq] at hagent
    refine ⟨⟨participant, RoomRecord.connectedAgent?_eq_some.mpr ⟨?_, hagent⟩⟩, ?_⟩
    · rw [hid]
      exact KeyedMap.get?_key hstored
    · rw [hid]
      exact hexecution
  · rintro ⟨⟨agent, hagent⟩, hexecution⟩
    obtain ⟨hget, hkind, hconnected⟩ := RoomRecord.connectedAgent?_eq_some.mp hagent
    have hid : agent.id = execution.agentParticipantId := KeyedMap.key_of_get? hget
    refine ⟨agent, List.mem_filter.mpr ⟨KeyedMap.mem_of_get? hget, ?_⟩, ?_⟩
    · rw [Bool.and_eq_true, decide_eq_true_eq]
      exact ⟨hkind, hconnected⟩
    · rw [hid]
      exact hexecution

section

variable (hdistinct : TurnsDistinct known.sockets)
include hdistinct

lemma activeTurn_iff_mem_activeExecutions : ActiveTurn room known requestId agentId turn ↔
      ∃ execution ∈ known.activeExecutions room requestId,
        execution.agentParticipantId = agentId ∧ execution.currentTurnSequence = some turn := by
  constructor
  · intro h
    obtain ⟨agent, hagent⟩ := h.connected
    obtain ⟨execution, hexecution, hturn⟩ := (taskExecutionFor_active hdistinct hagent).mpr h
    obtain ⟨rfl, -⟩ := key_of_taskExecutionFor hexecution
    refine ⟨execution, List.mem_filter.mpr ⟨?_, by rw [hturn]; rfl⟩, rfl, hturn⟩
    exact mem_taskExecutionsForRequest.mpr ⟨⟨agent, hagent⟩, hexecution⟩
  · rintro ⟨execution, hmem, rfl, hturn⟩
    obtain ⟨⟨agent, hagent⟩, hexecution⟩ :=
      mem_taskExecutionsForRequest.mp (List.mem_filter.mp hmem).1
    exact (taskExecutionFor_active hdistinct hagent).mp ⟨execution, hexecution, hturn⟩

/-- A Task whose one active turn is a given one. -/
structure OnlyActiveTurn (room : RoomRecord) (known : TaskExecutions) (requestId agentId : String)
    (turn : ℤ) : Prop where
  active : ActiveTurn room known requestId agentId turn
  unique : ∀ otherId otherTurn, ActiveTurn room known requestId otherId otherTurn →
    otherId = agentId ∧ otherTurn = turn

lemma onlyActiveTurn_of_activeExecutions
    (hactive : known.activeExecutions room requestId = [execution])
    (hturn : execution.currentTurnSequence = some turn) :
    OnlyActiveTurn room known requestId execution.agentParticipantId turn := by
  refine ⟨(activeTurn_iff_mem_activeExecutions hdistinct).mpr ⟨execution, ?_, rfl, hturn⟩, ?_⟩
  · rw [hactive]
    exact List.mem_singleton_self execution
  · intro otherId otherTurn hother
    obtain ⟨other, hmem, rfl, hotherTurn⟩ :=
      (activeTurn_iff_mem_activeExecutions hdistinct).mp hother
    rw [hactive] at hmem
    obtain rfl := List.mem_singleton.mp hmem
    exact ⟨rfl, Option.some.inj (hotherTurn.symm.trans hturn)⟩

lemma onlyActiveTurn_of_authoritativeTaskTurn
    (h : known.authoritativeTaskTurn room requestId agentId = some turn) :
    OnlyActiveTurn room known requestId agentId turn := by
  unfold TaskExecutions.authoritativeTaskTurn at h
  split at h
  next execution hactive =>
    split at h
    next hid => exact hid ▸ onlyActiveTurn_of_activeExecutions hdistinct hactive h
    next => cases h
  next => cases h

end

end Active

/-! ## What sockets remember -/

section Remember

variable {known : TaskExecutions} {room : RoomRecord}

lemma nodup_nextActiveTaskTurns {stored : List AgentEventActiveTaskTurn}
    (h : (stored.map (·.taskRequestId)).Nodup) (projection : TaskExecutionProjection) :
    ((TaskExecutions.nextActiveTaskTurns stored projection).map (·.taskRequestId)).Nodup := by
  have hothers := h.sublist ((List.filter_sublist (p := fun turn : AgentEventActiveTaskTurn =>
    turn.taskRequestId ≠ projection.taskRequestId)).map (·.taskRequestId))
  unfold TaskExecutions.nextActiveTaskTurns
  cases projection.currentTurnSequence with
  | none => exact hothers
  | some turnSequence =>
    rw [List.map_append, List.map_singleton, List.nodup_append]
    refine ⟨hothers.sublist ((List.drop_sublist _ _).map _), List.nodup_singleton _, ?_⟩
    intro requestId hmem other hother
    obtain ⟨turn, hturn, rfl⟩ := List.mem_map.mp hmem
    obtain rfl := List.mem_singleton.mp hother
    -- The turns that are kept are of other Tasks.
    simpa using (List.mem_filter.mp (List.mem_of_mem_drop hturn)).2

lemma TurnsDistinct.record (h : TurnsDistinct known.sockets) (participantId : String)
    (projection : TaskExecutionProjection) (writable : String → Bool) :
    TurnsDistinct (known.recordAttachmentActiveTaskTurn room participantId projection
      writable).sockets := by
  unfold TaskExecutions.recordAttachmentActiveTaskTurn
  split
  next => exact h
  next participant _ =>
    intro attachment hmem
    rw [KeyedMap.values_map] at hmem
    obtain ⟨stored, hstored, rfl⟩ := List.mem_map.mp hmem
    split
    next =>
      exact nodup_nextActiveTaskTurns ((h stored hstored).sublist
        ((deserialize_activeTaskTurns_sublist stored).map _)) projection
    next => exact h stored hstored

lemma TurnsDistinct.agentTaskExecution (h : TurnsDistinct known.sockets)
    (participantId token : String) (raw : JsValue) (writable : String → Bool) :
    TurnsDistinct (known.agentTaskExecution room participantId token raw writable).sockets := by
  unfold TaskExecutions.agentTaskExecution
  split
  next => exact h
  next =>
    split
    next => exact h
    next projection _ =>
      have hset : TurnsDistinct { known with
          transientTaskExecutions := known.transientTaskExecutions.set projection }.sockets := h
      exact hset.record _ _ _

lemma TurnsDistinct.open {sockets : AgentSockets} (h : TurnsDistinct sockets)
    (participantId connectionNonce : String) :
    TurnsDistinct (sockets.set { participantId, connectionNonce }) := by
  intro attachment hmem
  rcases KeyedMap.mem_set.mp hmem with rfl | ⟨hmem, -⟩
  · exact List.nodup_nil
  · exact h attachment hmem

end Remember

end Free4Chat
