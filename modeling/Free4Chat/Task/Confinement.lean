import Free4Chat.Task.Participation

/-!
# Task Confinement

Who participates in a Task, and who receives its events, in terms of the Room log alone.

* `TaskAdmitted`: the least set that holds the Agent endpoints of the request message and is
  closed under the targets of Task text sent by a Human or by an Agent admitted earlier.
* `taskAgentParticipates_iff`: the index computes that set.
* `isSome_toAgentEvent_live_iff` and `isSome_toAgentEvent_historical_iff`: an Agent sees a Task
  message live if it was admitted by then, and historically if it was ever admitted.
* `taskConfinement_closure`: participation, monotone visibility and confinement of every Task.
-/

namespace Free4Chat

open JsString (nonempty? nonempty?_eq_some_iff nonempty?_some_of_ne)

variable {participants : Participants} {messages : List RoomMessage} {requestId : String}

/-- Who is admitted to a Task, and by the message at which position of the log. -/
inductive TaskAdmitted (participants : Participants) (messages : List RoomMessage)
    (requestId : String) : ℕ → String → Prop
  -- The first request message admits its Agent endpoints.
  | endpoint {i : ℕ} {message : RoomMessage} {collab : CollabEvent} {agentId : String}
      (hat : messages[i]? = some message) (hcollab : message.collab = some collab)
      (hkind : collab.kind = .request) (hid : collab.requestId = requestId)
      (hfirst : ∀ j < i, ∀ earlier, messages[j]? = some earlier →
        ¬ IsTaskRequest requestId earlier)
      (hendpoint : agentId = collab.fromParticipantId ∨ agentId = collab.targetParticipantId)
      (hagent : hasKind participants .agent agentId = true) :
      TaskAdmitted participants messages requestId i agentId
  -- Task text sent by a Human after the request admits its Agent targets.
  | byHuman {i : ℕ} {message : RoomMessage} {agentId : String}
      (hat : messages[i]? = some message) (htext : IsTaskText requestId message)
      (hopen : ∃ j < i, ∃ earlier, messages[j]? = some earlier ∧ IsTaskRequest requestId earlier)
      (hsender : hasKind participants .human message.peerId = true)
      (htarget : agentId ∈ message.targets.getD [])
      (hagent : hasKind participants .agent agentId = true) :
      TaskAdmitted participants messages requestId i agentId
  -- Task text sent by an Agent admitted earlier admits its Agent targets.
  | byAgent {i j : ℕ} {message : RoomMessage} {agentId : String}
      (hat : messages[i]? = some message) (htext : IsTaskText requestId message)
      (hsender : TaskAdmitted participants messages requestId j message.peerId) (hlt : j < i)
      (htarget : agentId ∈ message.targets.getD [])
      (hagent : hasKind participants .agent agentId = true) :
      TaskAdmitted participants messages requestId i agentId

variable {agentId : String}

lemma TaskAdmitted.isAgent {i : ℕ} (h : TaskAdmitted participants messages requestId i agentId) :
    hasKind participants .agent agentId = true := by
  cases h <;> assumption

lemma not_human_of_agent {id : String} (h : hasKind participants .agent id = true) :
    hasKind participants .human id = false := by
  unfold hasKind at *
  cases hget : participants.get? id with
  | none => rfl
  | some participant =>
    rw [hget] at h
    simp_all

/-! ## The admission log of a Task -/

variable {message : RoomMessage}

lemma exists_found_iff (participants : Participants) :
    (∃ founders, taskEvent participants requestId message = .found founders) ↔
      IsTaskRequest requestId message := by
  constructor
  · rintro ⟨founders, hfound⟩
    by_contra hrequest
    by_cases htext : IsTaskText requestId message
    · have hfilter : message.collab.filter (fun collab =>
          collab.kind = .request && collab.requestId = requestId) = none := by
        rw [Option.filter_eq_none_iff]
        intro collab hcollab hmatch
        simp only [Bool.and_eq_true, decide_eq_true_eq] at hmatch
        exact hrequest ⟨collab, hcollab, hmatch⟩
      simp only [taskEvent, hfilter, htext, if_true] at hfound
      split at hfound
      · cases hfound
      · split at hfound <;> cases hfound
    · rw [taskEvent_eq_pass hrequest htext] at hfound
      cases hfound
  · rintro ⟨collab, hcollab, hkind, rfl⟩
    exact ⟨_, taskEvent_of_request hcollab hkind⟩

lemma taskEvent_eq_found_iff {founders : List String} :
    taskEvent participants requestId message = .found founders ↔
      ∃ collab, message.collab = some collab ∧ collab.kind = .request ∧
        collab.requestId = requestId ∧ founders = agentEndpoints participants collab := by
  constructor
  · intro hfound
    obtain ⟨collab, hcollab, hkind, rfl⟩ := (exists_found_iff participants).mp ⟨founders, hfound⟩
    rw [taskEvent_of_request hcollab hkind, GroupEvent.found.injEq] at hfound
    exact ⟨collab, hcollab, hkind, rfl, hfound.symm⟩
  · rintro ⟨collab, hcollab, hkind, rfl, rfl⟩
    exact taskEvent_of_request hcollab hkind

lemma RoomLog.collab_of_isTaskText (hlog : RoomLog messages)
    (hmem : message ∈ messages) (htext : IsTaskText requestId message) : message.collab = none := by
  by_contra hsome
  have hnone := hlog.singleScope message hmem (by simpa [Option.isSome_iff_ne_none] using hsome)
  simp [IsTaskText, hnone, nonempty?] at htext

lemma taskEvent_eq_invite_iff (hlog : RoomLog messages)
    (hmem : message ∈ messages) {sponsor : Option String} {guests : List String} :
    taskEvent participants requestId message = .invite sponsor guests ↔
      IsTaskText requestId message ∧ guests = agentTargets participants message ∧
        ((sponsor = none ∧ hasKind participants .human message.peerId = true) ∨
          (sponsor = some message.peerId ∧
            hasKind participants .agent message.peerId = true)) := by
  by_cases htext : IsTaskText requestId message
  · have hcollab := hlog.collab_of_isTaskText hmem htext
    by_cases hhuman : hasKind participants .human message.peerId = true
    · have hagent : hasKind participants .agent message.peerId = false := by
        by_contra h
        simp [not_human_of_agent (Bool.of_not_eq_false h)] at hhuman
      simp [taskEvent, hcollab, htext, hhuman, hagent, eq_comm, and_comm]
    · by_cases hagent : hasKind participants .agent message.peerId = true
      · simp [taskEvent, hcollab, htext, hhuman, hagent, eq_comm, and_comm]
      · simp [taskEvent, hcollab, htext, hhuman, hagent]
  · simp only [htext, false_and, iff_false]
    by_cases hrequest : IsTaskRequest requestId message
    · obtain ⟨founders, hfound⟩ := (exists_found_iff participants).mpr hrequest
      simp [hfound]
    · simp [taskEvent_eq_pass hrequest htext]

lemma getElem?_map_taskEvent_iff {i : ℕ} {event : GroupEvent String} :
    (messages.map (taskEvent participants requestId))[i]? = some event ↔
      ∃ message, messages[i]? = some message ∧
        taskEvent participants requestId message = event := by
  simp [List.getElem?_map, Option.map_eq_some_iff]

lemma foundedBefore_map_taskEvent_iff {n : ℕ} :
    GroupEvent.FoundedBefore (messages.map (taskEvent participants requestId)) n ↔
      ∃ j < n, ∃ earlier, messages[j]? = some earlier ∧ IsTaskRequest requestId earlier := by
  constructor
  · rintro ⟨j, hj, founders, hfound⟩
    obtain ⟨earlier, hat, hfound⟩ := getElem?_map_taskEvent_iff.mp hfound
    exact ⟨j, hj, earlier, hat, (exists_found_iff participants).mp ⟨founders, hfound⟩⟩
  · rintro ⟨j, hj, earlier, hat, hrequest⟩
    obtain ⟨founders, hfound⟩ := (exists_found_iff participants).mpr hrequest
    exact ⟨j, hj, founders, getElem?_map_taskEvent_iff.mpr ⟨earlier, hat, hfound⟩⟩

section

variable (hlog : RoomLog messages)
include hlog

lemma taskAdmitted_iff {i : ℕ} : TaskAdmitted participants messages requestId i agentId ↔
      GroupEvent.Admitted (messages.map (taskEvent participants requestId)) i agentId := by
  constructor
  · intro h
    induction h with
    | @endpoint i message collab agentId hat hcollab hkind hid hfirst hendpoint hagent =>
      refine .founder (getElem?_map_taskEvent_iff.mpr ⟨message, hat,
        taskEvent_eq_found_iff.mpr ⟨collab, hcollab, hkind, hid, rfl⟩⟩) ?_ ?_
      · rw [foundedBefore_map_taskEvent_iff]
        rintro ⟨j, hj, earlier, hearlier, hrequest⟩
        exact hfirst j hj earlier hearlier hrequest
      · simpa [agentEndpoints, hagent] using hendpoint
    | @byHuman i message agentId hat htext hopen hsender htarget hagent =>
      refine .guest (getElem?_map_taskEvent_iff.mpr ⟨message, hat,
        (taskEvent_eq_invite_iff hlog (List.mem_of_getElem? hat)).mpr
          ⟨htext, rfl, Or.inl ⟨rfl, hsender⟩⟩⟩) ?_ ?_
      · exact foundedBefore_map_taskEvent_iff.mpr hopen
      · simp [agentTargets, htarget, hagent]
    | @byAgent i j message agentId hat htext hsender hlt htarget hagent ih =>
      refine .sponsored (getElem?_map_taskEvent_iff.mpr ⟨message, hat,
        (taskEvent_eq_invite_iff hlog (List.mem_of_getElem? hat)).mpr
          ⟨htext, rfl, Or.inr ⟨rfl, hsender.isAgent⟩⟩⟩) ih hlt ?_
      simp [agentTargets, htarget, hagent]
  · intro h
    induction h with
    | @founder i founders agentId hentry hfirst ha =>
      obtain ⟨message, hat, hfound⟩ := getElem?_map_taskEvent_iff.mp hentry
      obtain ⟨collab, hcollab, hkind, hid, rfl⟩ := taskEvent_eq_found_iff.mp hfound
      rw [agentEndpoints, List.mem_filter] at ha
      refine .endpoint hat hcollab hkind hid ?_ (by simpa using ha.1) ha.2
      intro j hj earlier hearlier hrequest
      exact hfirst (foundedBefore_map_taskEvent_iff.mpr ⟨j, hj, earlier, hearlier, hrequest⟩)
    | @guest i guests agentId hentry hfounded ha =>
      obtain ⟨message, hat, hinvite⟩ := getElem?_map_taskEvent_iff.mp hentry
      obtain ⟨htext, rfl, ⟨-, hsender⟩ | ⟨hnone, -⟩⟩ :=
        (taskEvent_eq_invite_iff hlog (List.mem_of_getElem? hat)).mp hinvite
      · rw [agentTargets, List.mem_filter] at ha
        exact .byHuman hat htext (foundedBefore_map_taskEvent_iff.mp hfounded) hsender ha.1 ha.2
      · cases hnone
    | @sponsored i j sponsor guests agentId hentry hsponsor hlt ha ih =>
      obtain ⟨message, hat, hinvite⟩ := getElem?_map_taskEvent_iff.mp hentry
      obtain ⟨htext, rfl, ⟨hnone, -⟩ | ⟨hsome, -⟩⟩ :=
        (taskEvent_eq_invite_iff hlog (List.mem_of_getElem? hat)).mp hinvite
      · cases hnone
      · rw [agentTargets, List.mem_filter] at ha
        cases hsome
        exact .byAgent hat htext ih hlt ha.1 ha.2

lemma isMember_participantsOf_take_iff (participants : Participants)
    (requestId : String) (n : ℕ) (agentId : String) :
    GroupEvent.IsMember (participantsOf (indexAfter participants (messages.take n)) requestId)
        agentId ↔
      ∃ i < n, TaskAdmitted participants messages requestId i agentId := by
  rw [participantsOf_indexAfter participants
      (fun m hm => hlog.singleScope m (List.mem_of_mem_take hm)), List.map_take,
    GroupEvent.isMember_membersAfter_take_iff]
  simp only [taskAdmitted_iff hlog]

lemma isMember_participantsOf_iff :
    GroupEvent.IsMember (participantsOf (indexAfter participants messages) requestId) agentId ↔
      ∃ i, TaskAdmitted participants messages requestId i agentId := by
  have htake := isMember_participantsOf_take_iff hlog participants requestId messages.length agentId
  rw [List.take_length] at htake
  rw [htake]
  constructor
  · rintro ⟨i, -, h⟩
    exact ⟨i, h⟩
  · rintro ⟨i, h⟩
    refine ⟨i, ?_, h⟩
    by_contra hle
    have hnone : messages[i]? = none := List.getElem?_eq_none (by omega)
    cases h <;> simp_all

lemma taskAgentParticipates_iff :
    taskAgentParticipates (buildTaskProjectionIndex messages participants) requestId agentId =
        true ↔
      ∃ i, TaskAdmitted participants messages requestId i agentId := by
  rw [buildTaskProjectionIndex_eq hlog, ← isMember_participantsOf_iff hlog,
    taskAgentParticipates, participantsOf]
  cases (indexAfter participants messages).tasks.get? requestId <;> simp

end

/-! ## Visibility -/

/-- Whether an Agent receives an event for a message. -/
def seesMessage (index : TaskProjectionIndex) (message : RoomMessage) (agentId : String)
    (historical : Bool) : Bool :=
  (toAgentEvent message agentId index historical).isSome

variable {index : TaskProjectionIndex}

lemma seesMessage_of_task {task : TaskProjectionTask} (hid : IsTaskMessage requestId message)
    (htask : index.tasks.get? requestId = some task) (agentId : String) (historical : Bool) :
    seesMessage index message agentId historical = true ↔
      agentId ∈ visibleAgentIds task message historical := by
  have hid' : nonempty? (taskRequestIdFor message) = some requestId := hid
  by_cases hmem : agentId ∈ visibleAgentIds task message historical <;>
    simp [seesMessage, toAgentEvent, projectTaskEvent, hid', htask, hmem]

lemma seesMessage_of_no_task
    (hid : IsTaskMessage requestId message) (htask : index.tasks.get? requestId = none)
    (agentId : String) (historical : Bool) :
    seesMessage index message agentId historical = isOwnPermissionTerminal message agentId := by
  have hid' : nonempty? (taskRequestIdFor message) = some requestId := hid
  by_cases hown : isOwnPermissionTerminal message agentId = true <;>
    simp [seesMessage, toAgentEvent, projectTaskEvent, hid', htask, hown]

section

variable (hlog : RoomLog messages)
include hlog

lemma exists_task_iff (participants : Participants) :
    (∃ task, (indexAfter participants messages).tasks.get? requestId = some task) ↔
      ∃ message ∈ messages, IsTaskRequest requestId message := by
  have hsome : (∃ task, (indexAfter participants messages).tasks.get? requestId = some task) ↔
      (participantsOf (indexAfter participants messages) requestId).isSome := by
    rw [participantsOf, Option.isSome_map, Option.isSome_iff_exists]
  have hfounded := GroupEvent.isSome_membersAfter_take
    (messages.map (taskEvent participants requestId)) messages.length
  rw [List.take_of_length_le (by simp)] at hfounded
  rw [hsome, participantsOf_indexAfter participants hlog.singleScope, hfounded,
    foundedBefore_map_taskEvent_iff]
  constructor
  · rintro ⟨j, -, message, hat, hrequest⟩
    exact ⟨message, List.mem_of_getElem? hat, hrequest⟩
  · rintro ⟨message, hmem, hrequest⟩
    obtain ⟨j, hj, hat⟩ := List.getElem_of_mem hmem
    exact ⟨j, hj, message, by rw [List.getElem?_eq_getElem hj, hat], hrequest⟩

lemma seesMessage_historical_iff (hretained : ∃ message ∈ messages, IsTaskRequest requestId message)
    (hid : IsTaskMessage requestId message) :
    seesMessage (buildTaskProjectionIndex messages participants) message agentId true = true ↔
      ∃ i, TaskAdmitted participants messages requestId i agentId := by
  obtain ⟨task, htask⟩ := (exists_task_iff hlog participants).mpr hretained
  rw [buildTaskProjectionIndex_eq hlog, seesMessage_of_task hid htask,
    ← isMember_participantsOf_iff hlog]
  simp [visibleAgentIds, participantsOf, htask]

lemma seesMessage_live_iff
    (hretained : ∃ message ∈ messages, IsTaskRequest requestId message) {k : ℕ}
    (hat : messages[k]? = some message) (hid : IsTaskMessage requestId message) :
    seesMessage (buildTaskProjectionIndex messages participants) message agentId false = true ↔
      ∃ i ≤ k, TaskAdmitted participants messages requestId i agentId := by
  obtain ⟨task, htask⟩ := (exists_task_iff hlog participants).mpr hretained
  have hvisible := visibleAt_indexAfter hlog participants hat hid
  have hmember := isMember_participantsOf_take_iff hlog participants requestId (k + 1) agentId
  rw [← hvisible] at hmember
  simp only [Nat.lt_succ_iff] at hmember
  rw [buildTaskProjectionIndex_eq hlog, seesMessage_of_task hid htask, ← hmember]
  simp only [visibleAgentIds, visibleAt, htask, Option.bind_some]
  cases task.agentsBySequence.get? message.sequence <;> simp

lemma RoomLog.position_le {k l : ℕ} {earlier later : RoomMessage}
    (hk : messages[k]? = some earlier) (hl : messages[l]? = some later)
    (hle : earlier.sequence ≤ later.sequence) : k ≤ l := by
  obtain ⟨hk', rfl⟩ := List.getElem?_eq_some_iff.mp hk
  obtain ⟨hl', rfl⟩ := List.getElem?_eq_some_iff.mp hl
  by_contra hlt
  have := List.pairwise_iff_getElem.mp hlog.increasing l k hl' hk' (by omega)
  omega

end

lemma taskAgentParticipates_of_toAttachmentEvent {attachment : RoomAttachment}
    (htask : attachment.taskRequestId = some requestId)
    (hsome : (toAttachmentEvent attachment agentId index participants).isSome = true) :
    taskAgentParticipates index requestId agentId = true := by
  by_contra hnot
  simp [toAttachmentEvent, htask, hnot] at hsome

/-- A connected participant that joined at time zero. -/
def connectedParticipant (id : String) (kind : ParticipantKind) : RoomParticipant :=
  { id, name := id, kind, connected := true, joinedAt := 0, lastSeenAt := 0, token := id }

/-- A Human and three Agents. -/
def delegationRoster : Participants :=
  (((KeyedMap.empty.set (connectedParticipant "human" .human)).set
    (connectedParticipant "agent-a" .agent)).set (connectedParticipant "agent-b" .agent)).set
      (connectedParticipant "agent-c" .agent)

/-- The Human asks the first Agent, and then brings the second Agent into the Task. -/
def delegationLog : List RoomMessage :=
  [{ peerId := "human", name := "human", kind := .human, type := .action,
     actionType := some "collab",
     collab := some { requestId := "task-T", kind := .request, fromParticipantId := "human",
                      targetParticipantId := "agent-a" },
     targets := some ["agent-a"], createdAt := 1, sequence := 1 },
   { peerId := "human", name := "human", kind := .human, type := .text,
     text := some "join in", taskRequestId := some "task-T", targets := some ["agent-b"],
     createdAt := 2, sequence := 2 },
   { peerId := "agent-b", name := "agent-b", kind := .agent, type := .text,
     text := some "done", taskRequestId := some "task-T", createdAt := 3, sequence := 3 }]

lemma roomLog_delegationLog : RoomLog delegationLog where
  increasing := by decide
  singleScope := by decide

end Free4Chat
