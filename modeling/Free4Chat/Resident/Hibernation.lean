import Free4Chat.Resident.TaskControl

/-!
# Turns That Survive Hibernation

When a Room hibernates, the instance loses what it knew of the executions, and the resident sockets
keep their attachments. A socket remembers the current turn of the newest Tasks of its Agent, so the
turn of a Task that is recovered from it is the one that was current, or none.

* `ExecutionPublication` and `TaskExecutions.publish`: one published execution.
* `connectionTurns`: the current turns of an Agent, without the bound of a socket.
* `Remembers`: what holds while an Agent stays on a connection, and `Remembers.foldl_publish`.
* `recoversCurrentTurns_of_writable`: what is recovered was current.
-/

namespace Free4Chat

/-- An execution that a Runtime publishes, in the Room as it is then. -/
structure ExecutionPublication where
  room : RoomRecord
  participantId : String
  token : String
  raw : JsValue
  -- Which sockets can be written.
  writable : String → Bool

/-- The execution that is accepted, if it is. -/
def ExecutionPublication.accepted? (publication : ExecutionPublication) :
    Option TaskExecutionProjection :=
  (((publication.room.findAgent publication.participantId publication.token).toOption).filter
    (·.connected)).bind fun participant =>
      normalizeTaskExecution publication.room.messages publication.room.participants participant
        publication.raw

namespace TaskExecutions

/-- What is known after an execution was published. -/
def publish (known : TaskExecutions) (publication : ExecutionPublication) : TaskExecutions :=
  known.agentTaskExecution publication.room publication.participantId publication.token
    publication.raw publication.writable

/-- What is known after the instance lost its memory. -/
def hibernate (known : TaskExecutions) : TaskExecutions :=
  { known with transientTaskExecutions := .empty }

end TaskExecutions

/-! ## Current turns -/

/-- The current turns of an Agent after an execution was accepted, the newest last. -/
def recordCurrentTurn (turns : List AgentEventActiveTaskTurn)
    (projection : TaskExecutionProjection) : List AgentEventActiveTaskTurn :=
  turns.filter (fun turn => turn.taskRequestId ≠ projection.taskRequestId) ++
    (projection.currentTurnSequence.map fun turnSequence =>
      { taskRequestId := projection.taskRequestId, turnSequence }).toList

/-- The current turns of an Agent after a list of publications, the newest last. -/
def connectionTurns (agentId : String) (publications : List ExecutionPublication) :
    List AgentEventActiveTaskTurn :=
  ((publications.filterMap ExecutionPublication.accepted?).filter fun projection =>
    projection.agentParticipantId = agentId).foldl recordCurrentTurn []

/-- An Agent is on a connection. -/
def OnConnection (room : RoomRecord) (agentId connectionNonce : String) : Prop :=
  ∃ agent, room.connectedAgent? agentId = some agent ∧ agent.connectionNonce = some connectionNonce

/-- An Agent has just opened a connection: its socket remembers nothing, and nothing is known of its
executions. -/
structure OpenedConnection (known : TaskExecutions) (agentId connectionNonce : String) : Prop where
  socket : known.sockets.get? connectionNonce = some { participantId := agentId, connectionNonce }
  forgotten : ∀ requestId, known.transientTaskExecutions.get? (agentId, requestId) = none

/-- What is recovered on a connection after executions were published: of every Task the turn that
was current, or nothing, and the newest turns only. -/
structure RecoversCurrentTurns (known : TaskExecutions) (agentId connectionNonce : String)
    (publications : List ExecutionPublication) : Prop where
  current : ∀ room requestId execution, OnConnection room agentId connectionNonce →
    (publications.foldl TaskExecutions.publish known).hibernate.taskExecutionFor room agentId
      requestId = some execution →
    ∃ turn live, execution.currentTurnSequence = some turn ∧
      (publications.foldl TaskExecutions.publish known).transientTaskExecutions.get?
        (agentId, requestId) = some live ∧ live.currentTurnSequence = some turn ∧
      ⟨requestId, turn⟩ ∈ connectionTurns agentId publications
  newest : ∃ attachment,
    (publications.foldl TaskExecutions.publish known).sockets.get? connectionNonce =
      some attachment ∧
    attachment.activeTaskTurns <:+ connectionTurns agentId publications ∧
    attachment.activeTaskTurns.length ≤ MAX_ATTACHMENT_ACTIVE_TASK_TURNS

/-! ## One publication -/

lemma nextActiveTaskTurns_suffix {stored turns : List AgentEventActiveTaskTurn}
    (h : stored <:+ turns) (projection : TaskExecutionProjection) :
    TaskExecutions.nextActiveTaskTurns stored projection <:+ recordCurrentTurn turns projection := by
  have hothers := h.filter (fun turn => turn.taskRequestId ≠ projection.taskRequestId)
  unfold TaskExecutions.nextActiveTaskTurns recordCurrentTurn
  cases projection.currentTurnSequence with
  | none =>
    rw [Option.map_none, Option.toList_none, List.append_nil]
    exact hothers
  | some turnSequence =>
    rw [Option.map_some, Option.toList_some]
    exact (List.suffix_append_inj_of_length_eq rfl).mpr
      ⟨(List.drop_suffix _ _).trans hothers, rfl⟩

lemma length_nextActiveTaskTurns_le {stored : List AgentEventActiveTaskTurn}
    (h : stored.length ≤ MAX_ATTACHMENT_ACTIVE_TASK_TURNS) (projection : TaskExecutionProjection) :
    (TaskExecutions.nextActiveTaskTurns stored projection).length ≤
      MAX_ATTACHMENT_ACTIVE_TASK_TURNS := by
  have hothers := List.length_filter_le
    (fun turn : AgentEventActiveTaskTurn => turn.taskRequestId ≠ projection.taskRequestId) stored
  unfold TaskExecutions.nextActiveTaskTurns
  cases projection.currentTurnSequence with
  | none => exact hothers.trans h
  | some turnSequence =>
    have hpos : 0 < MAX_ATTACHMENT_ACTIVE_TASK_TURNS := by decide
    dsimp only
    rw [List.length_append, List.length_drop, List.length_singleton]
    omega

lemma agentParticipantId_of_normalizeTaskExecution {messages : List RoomMessage}
    {participants : Participants} {participant : RoomParticipant} {raw : JsValue}
    {projection : TaskExecutionProjection}
    (h : normalizeTaskExecution messages participants participant raw = some projection) :
    projection.agentParticipantId = participant.id := by
  unfold normalizeTaskExecution at h
  obtain ⟨_, -, h⟩ := Option.bind_eq_some_iff.mp h
  obtain ⟨_, -, h⟩ := Option.bind_eq_some_iff.mp h
  split at h
  · cases h
  · obtain ⟨_, -, h⟩ := Option.bind_eq_some_iff.mp h
    dsimp only at h
    split at h
    · cases h
    · obtain ⟨_, -, h⟩ := Option.bind_eq_some_iff.mp h
      split at h
      · cases h
      · obtain ⟨_, -, h⟩ := Option.bind_eq_some_iff.mp h
        obtain ⟨_, -, h⟩ := Option.bind_eq_some_iff.mp h
        obtain ⟨_, -, h⟩ := Option.bind_eq_some_iff.mp h
        rw [← Option.some.inj h]

namespace TaskExecutions

variable {known : TaskExecutions} {publication : ExecutionPublication}

lemma publish_of_rejected (h : publication.accepted? = none) :
    known.publish publication = known := by
  unfold publish agentTaskExecution
  unfold ExecutionPublication.accepted? at h
  split
  next => rfl
  next participant hfind =>
    rw [hfind, Option.bind_some] at h
    rw [h]

lemma publish_of_accepted (known : TaskExecutions) {projection : TaskExecutionProjection}
    (h : publication.accepted? = some projection) :
    (∃ agent, publication.room.participants.get? projection.agentParticipantId = some agent ∧
      agent.kind = .agent) ∧ known.publish publication =
      { known with
        transientTaskExecutions := known.transientTaskExecutions.set projection
        }.recordAttachmentActiveTaskTurn publication.room projection.agentParticipantId projection
          publication.writable := by
  unfold ExecutionPublication.accepted? at h
  obtain ⟨participant, hfind, hnormalize⟩ := Option.bind_eq_some_iff.mp h
  have hid := agentParticipantId_of_normalizeTaskExecution hnormalize
  constructor
  · obtain ⟨hfind, -⟩ := Option.filter_eq_some_iff.mp hfind
    rw [Except.toOption_eq_some] at hfind
    unfold RoomRecord.findAgent at hfind
    split at hfind
    · cases hfind
    next found hfound =>
      split at hfind
      next hkind =>
        obtain rfl := Except.ok.inj hfind
        have hget := (Option.filter_eq_some_iff.mp hfound).1
        refine ⟨found, ?_, hkind⟩
        rw [hid, show found.id = publication.participantId from KeyedMap.key_of_get? hget]
        exact hget
      next => cases hfind
  · unfold publish agentTaskExecution
    rw [hfind]
    dsimp only
    rw [hnormalize, hid]

end TaskExecutions

/-! ## Runs -/

/-- What holds while an Agent stays on a connection: the current turns are in memory, and its socket
remembers the newest of them. -/
structure Remembers (known : TaskExecutions) (agentId connectionNonce : String)
    (turns : List AgentEventActiveTaskTurn) : Prop where
  live : ∀ turn ∈ turns, ∃ execution,
    known.transientTaskExecutions.get? (agentId, turn.taskRequestId) = some execution ∧
      execution.currentTurnSequence = some turn.turnSequence
  socket : ∃ attachment, known.sockets.get? connectionNonce = some attachment ∧
    attachment.participantId = agentId ∧ attachment.activeTaskTurns <:+ turns ∧
    attachment.activeTaskTurns.length ≤ MAX_ATTACHMENT_ACTIVE_TASK_TURNS

namespace Remembers

variable {known : TaskExecutions} {agentId connectionNonce : String}
  {turns : List AgentEventActiveTaskTurn} {projection : TaskExecutionProjection}

section

variable (h : Remembers known agentId connectionNonce turns)
include h

lemma live_set (hagent : projection.agentParticipantId = agentId) :
    ∀ turn ∈ recordCurrentTurn turns projection, ∃ execution,
      (known.transientTaskExecutions.set projection).get? (agentId, turn.taskRequestId) =
        some execution ∧ execution.currentTurnSequence = some turn.turnSequence := by
  intro turn hmem
  rw [KeyedMap.get?_set, TaskExecutionProjection.key_eq, hagent]
  rcases List.mem_append.mp hmem with hmem | hmem
  · -- A turn of another Task is as current as before.
    obtain ⟨hmem, hother⟩ := List.mem_filter.mp hmem
    rw [if_neg ?_]
    · exact h.live turn hmem
    · intro heq
      exact of_decide_eq_true hother (Prod.mk.inj heq).2.symm
  · obtain ⟨turnSequence, hcurrent, rfl⟩ := Option.map_eq_some_iff.mp (Option.mem_toList.mp hmem)
    rw [if_pos rfl]
    exact ⟨projection, rfl, hcurrent⟩

lemma publish_own
    {publication : ExecutionPublication} (haccepted : publication.accepted? = some projection)
    (hagent : projection.agentParticipantId = agentId)
    (hroom : OnConnection publication.room agentId connectionNonce)
    (hwritable : publication.writable connectionNonce = true) :
    Remembers (known.publish publication) agentId connectionNonce
      (recordCurrentTurn turns projection) := by
  obtain ⟨⟨agent, hget, hkind⟩, hpublish⟩ :=
    TaskExecutions.publish_of_accepted known haccepted
  obtain ⟨attachment, hsocket, howner, hsuffix, hbound⟩ := h.socket
  obtain ⟨connected, hconnected, hnonce⟩ := hroom
  have hsame : connected = agent := by
    rw [hagent] at hget
    exact Option.some.inj ((RoomRecord.connectedAgent?_eq_some.mp hconnected).1.symm.trans hget)
  subst hsame
  have hid : connected.id = agentId := by
    rw [← hagent]
    exact KeyedMap.key_of_get? hget
  have hkey : attachment.connectionNonce = connectionNonce := KeyedMap.key_of_get? hsocket
  have hresident : (RoomRecord.isResident connected attachment &&
      publication.writable attachment.connectionNonce) = true := by
    rw [RoomRecord.isResident, howner, hid, hnonce, hkey, hwritable]
    simp
  have hstored : (deserializeAgentEventAttachment attachment).activeTaskTurns <:+ turns ∧
      (deserializeAgentEventAttachment attachment).activeTaskTurns.length ≤
        MAX_ATTACHMENT_ACTIVE_TASK_TURNS := by
    unfold deserializeAgentEventAttachment
    split
    · exact ⟨List.nil_suffix, Nat.zero_le _⟩
    · exact ⟨hsuffix, hbound⟩
  rw [hpublish, TaskExecutions.recordAttachmentActiveTaskTurn, hget, Option.filter_some,
    if_pos (decide_eq_true hkind)]
  refine ⟨h.live_set hagent,
    { deserializeAgentEventAttachment attachment with
      activeTaskTurns := TaskExecutions.nextActiveTaskTurns
        (deserializeAgentEventAttachment attachment).activeTaskTurns projection }, ?_, ?_, ?_, ?_⟩
  · rw [KeyedMap.get?_map, hsocket, Option.map_some, if_pos hresident]
  · exact (deserialize_participantId attachment).trans howner
  · exact nextActiveTaskTurns_suffix hstored.1 projection
  · exact length_nextActiveTaskTurns_le hstored.2 projection

lemma publish_other
    {publication : ExecutionPublication} (haccepted : publication.accepted? = some projection)
    (hagent : projection.agentParticipantId ≠ agentId) :
    Remembers (known.publish publication) agentId connectionNonce turns := by
  obtain ⟨⟨agent, hget, hkind⟩, hpublish⟩ :=
    TaskExecutions.publish_of_accepted known haccepted
  obtain ⟨attachment, hsocket, howner, hsuffix, hbound⟩ := h.socket
  have hid : agent.id = projection.agentParticipantId := KeyedMap.key_of_get? hget
  have hresident : (RoomRecord.isResident agent attachment &&
      publication.writable attachment.connectionNonce) = false := by
    rw [RoomRecord.isResident, howner, hid, decide_eq_false (Ne.symm hagent)]
    rfl
  rw [hpublish, TaskExecutions.recordAttachmentActiveTaskTurn, hget, Option.filter_some,
    if_pos (decide_eq_true hkind)]
  refine ⟨?_, attachment, ?_, howner, hsuffix, hbound⟩
  · intro turn hmem
    show ∃ execution, (known.transientTaskExecutions.set projection).get?
      (agentId, turn.taskRequestId) = some execution ∧ _
    rw [KeyedMap.get?_set_of_ne]
    · exact h.live turn hmem
    · rw [TaskExecutionProjection.key_eq]
      intro heq
      exact hagent (Prod.mk.inj heq).1
  · rw [KeyedMap.get?_map, hsocket, Option.map_some, hresident]
    rfl

lemma foldl_publish {publications : List ExecutionPublication}
    (hroom : ∀ publication ∈ publications,
      OnConnection publication.room agentId connectionNonce)
    (hwritable : ∀ publication ∈ publications,
      publication.writable connectionNonce = true) :
    Remembers (publications.foldl TaskExecutions.publish known) agentId connectionNonce
      (((publications.filterMap ExecutionPublication.accepted?).filter fun projection =>
        projection.agentParticipantId = agentId).foldl recordCurrentTurn turns) := by
  induction publications generalizing known turns with
  | nil => exact h
  | cons publication publications ih =>
    have hroom' := fun other hmem => hroom other (List.mem_cons_of_mem publication hmem)
    have hwritable' := fun other hmem => hwritable other (List.mem_cons_of_mem publication hmem)
    rw [List.foldl_cons]
    cases haccepted : publication.accepted? with
    | none =>
      rw [List.filterMap_cons_none haccepted, TaskExecutions.publish_of_rejected haccepted]
      exact ih h hroom' hwritable'
    | some projection =>
      rw [List.filterMap_cons_some haccepted]
      by_cases hagent : projection.agentParticipantId = agentId
      · rw [List.filter_cons, if_pos (decide_eq_true hagent), List.foldl_cons]
        exact ih (h.publish_own haccepted hagent (hroom _ List.mem_cons_self)
          (hwritable _ List.mem_cons_self)) hroom' hwritable'
      · rw [List.filter_cons_of_neg (by simpa using hagent)]
        exact ih (h.publish_other haccepted hagent) hroom' hwritable'

end

lemma of_opened (h : OpenedConnection known agentId connectionNonce) :
    Remembers known agentId connectionNonce [] := by
  refine ⟨fun turn hmem => absurd hmem List.not_mem_nil, _, h.socket, rfl, List.suffix_rfl, ?_⟩
  exact Nat.zero_le _

lemma current_of_hibernate (h : Remembers known agentId connectionNonce turns)
    {room : RoomRecord} {requestId : String} {execution : TaskExecutionProjection}
    (hroom : OnConnection room agentId connectionNonce)
    (hexecution : known.hibernate.taskExecutionFor room agentId requestId = some execution) :
    ∃ turn live, execution.currentTurnSequence = some turn ∧
      known.transientTaskExecutions.get? (agentId, requestId) = some live ∧
      live.currentTurnSequence = some turn ∧ ⟨requestId, turn⟩ ∈ turns := by
  obtain ⟨stored, hsocket, -, hsuffix, -⟩ := h.socket
  obtain ⟨agent, hagent, hnonce⟩ := hroom
  -- Memory is lost, so the answer comes from the socket of the connection.
  have hattachment : known.hibernate.attachmentTaskExecution room agentId requestId =
      some execution := hexecution
  unfold TaskExecutions.attachmentTaskExecution at hattachment
  obtain ⟨remembered, hfind, rfl⟩ := Option.map_eq_some_iff.mp hattachment
  obtain ⟨attachment, hcurrent, hfind⟩ := Option.bind_eq_some_iff.mp hfind
  obtain ⟨resident, hresident, rfl⟩ := currentAgentEventAttachment_eq_some.mp hcurrent
  have hstored : resident = stored := by
    obtain ⟨agent', hget', -, -, hnonce'⟩ := hresident.agent
    obtain rfl := Option.some.inj
      ((RoomRecord.connectedAgent?_eq_some.mp hagent).1.symm.trans hget')
    have hkey : resident.connectionNonce = stored.connectionNonce :=
      (Option.some.inj (hnonce'.symm.trans hnonce)).trans (KeyedMap.key_of_get? hsocket).symm
    exact KeyedMap.eq_of_key_eq _ hresident.stored (KeyedMap.mem_of_get? hsocket) hkey
  subst hstored
  have hrequest : remembered.taskRequestId = requestId := by simpa using List.find?_some hfind
  have hmem : remembered ∈ turns :=
    hsuffix.subset ((deserialize_activeTaskTurns_sublist resident).subset
      (List.mem_of_find?_eq_some hfind))
  obtain ⟨live, hlive, hturn⟩ := h.live remembered hmem
  rw [hrequest] at hlive
  refine ⟨remembered.turnSequence, live, rfl, hlive, hturn, ?_⟩
  rw [← hrequest]
  exact hmem

end Remembers

/-- **Hibernation.** However executions are published while an Agent stays on the connection that it
opened, what is recovered from its socket after the memory is lost is the turn that was current, as
long as the socket can be written. -/
theorem recoversCurrentTurns_of_writable {known : TaskExecutions}
    {agentId connectionNonce : String} {publications : List ExecutionPublication}
    (hopened : OpenedConnection known agentId connectionNonce)
    (hroom : ∀ publication ∈ publications,
      OnConnection publication.room agentId connectionNonce)
    (hwritable : ∀ publication ∈ publications,
      publication.writable connectionNonce = true) :
    RecoversCurrentTurns known agentId connectionNonce publications := by
  have hremembers := (Remembers.of_opened hopened).foldl_publish hroom hwritable
  refine ⟨?_, ?_⟩
  · intro room requestId execution hroom hexecution
    exact hremembers.current_of_hibernate hroom hexecution
  · obtain ⟨attachment, hsocket, -, hsuffix, hbound⟩ := hremembers.socket
    exact ⟨attachment, hsocket, hsuffix, hbound⟩

/-! ## A write that fails -/

/-- A Task whose Agent has just opened a connection. -/
def openedSession : TaskControlSession :=
  (steeringRun.take 5).foldl (fun s label => s.step label.1 label.2) {}

/-- Its Room. -/
def openedRoom : RoomRecord := openedSession.session.stored.getD (RoomRecord.newRoom (fixedEnv true))

/-- The publication of a running turn. -/
def publishedTurn (turnSequence : ℤ) (writable : Bool) : ExecutionPublication :=
  { room := openedRoom
    participantId := "agent-a"
    token := "token"
    raw := .obj [("taskRequestId", .str "task-1"), ("queuedCount", .int 0),
      ("currentTurnSequence", .int turnSequence), ("phase", .str "running")]
    writable := fun _ => writable }

lemma openedConnection_openedSession :
    OpenedConnection openedSession.known "agent-a" "nonce-a" := by
  have hsocket : openedSession.known.sockets.get? "nonce-a" =
      some { participantId := "agent-a", connectionNonce := "nonce-a" } := by decide +kernel
  have hempty : openedSession.known.transientTaskExecutions.values = [] := by decide +kernel
  refine ⟨hsocket, fun requestId => KeyedMap.get?_eq_none_iff.mpr ?_⟩
  rw [hempty]
  exact fun execution hmem => absurd hmem List.not_mem_nil

lemma onConnection_openedRoom : OnConnection openedRoom "agent-a" "nonce-a" := by
  have hnonce : (openedRoom.connectedAgent? "agent-a").map (·.connectionNonce) =
      some (some "nonce-a") := by decide +kernel
  obtain ⟨agent, hagent, hnonce⟩ := Option.map_eq_some_iff.mp hnonce
  exact ⟨agent, hagent, hnonce⟩

/-- Two turns that are both recorded: the second one is recovered. -/
theorem recoversCurrentTurns_recorded :
    RecoversCurrentTurns openedSession.known "agent-a" "nonce-a"
      [publishedTurn 3 true, publishedTurn 4 true] := by
  refine recoversCurrentTurns_of_writable openedConnection_openedSession ?_ ?_
  · intro publication hmem
    rcases List.mem_pair.mp hmem with rfl | rfl
    · exact onConnection_openedRoom
    · exact onConnection_openedRoom
  · intro publication hmem
    rcases List.mem_pair.mp hmem with rfl | rfl
    · rfl
    · rfl

/-- When the socket cannot be written, the turn before is recovered. -/
theorem not_recoversCurrentTurns_unwritable :
    ¬ ∀ known agentId connectionNonce publications,
      OpenedConnection known agentId connectionNonce →
      (∀ publication ∈ publications, OnConnection publication.room agentId connectionNonce) →
      RecoversCurrentTurns known agentId connectionNonce publications := by
  intro hall
  have hrecovers := hall openedSession.known "agent-a" "nonce-a"
    [publishedTurn 3 true, publishedTurn 4 false] openedConnection_openedSession (by
      intro publication hmem
      rcases List.mem_pair.mp hmem with rfl | rfl
      · exact onConnection_openedRoom
      · exact onConnection_openedRoom)
  have hrecovered : (([publishedTurn 3 true, publishedTurn 4 false].foldl TaskExecutions.publish
      openedSession.known).hibernate.taskExecutionFor openedRoom "agent-a" "task-1").map
        (·.currentTurnSequence) = some (some 3) := by decide +kernel
  have hlive : (([publishedTurn 3 true, publishedTurn 4 false].foldl TaskExecutions.publish
      openedSession.known).transientTaskExecutions.get? ("agent-a", "task-1")).map
        (·.currentTurnSequence) = some (some 4) := by decide +kernel
  obtain ⟨execution, hexecution, hthree⟩ := Option.map_eq_some_iff.mp hrecovered
  obtain ⟨turn, live, hturn, hget, hcurrent, -⟩ :=
    hrecovers.current openedRoom "task-1" execution onConnection_openedRoom hexecution
  rw [hget, Option.map_some, hcurrent, ← hturn, hthree] at hlive
  exact absurd hlive (by decide)

end Free4Chat
