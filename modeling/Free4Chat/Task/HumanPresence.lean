import Free4Chat.Task.Confinement

/-!
# Task Participation and Human Presence

The index decides whether a Task message was sent by a Human by looking the sender up in the
current participants map, so the departure of a Human can take back admissions that the Human
made. The Task views of the remaining Agents survive a departure exactly when the departed Humans
admitted nobody who was not a participant already.

* `removeHumans`: the participants map after some Humans departed.
* `TaskViewsAgree`: two maps give the Agents the same participation, events and execution rights.
* `AdmissionsRedundant`: the departed Humans admitted only Agents that participated already.
* `taskViewsAgree_removeHumans_iff`: departures are harmless exactly when they are redundant.
* `not_taskViewsAgree_departedHuman`: an Agent loses a Task when the Human that admitted it
  departs.
-/

namespace Free4Chat

open JsString (nonempty? nonempty?_eq_some_iff nonempty?_some_of_ne)

variable {participants : Participants} {messages : List RoomMessage} {requestId : String}
  {departed : String → Bool}

/-- The participants map after the departure of some Humans. -/
def removeHumans (participants : Participants) (departed : String → Bool) : Participants :=
  participants.filter fun participant => !(participant.kind = .human && departed participant.id)

/-- The Task views of the Agents agree under two participants maps. -/
def TaskViewsAgree (participants participants' : Participants) (messages : List RoomMessage) :
    Prop :=
  (∀ agentId, hasKind participants .agent agentId = true →
    (∀ requestId,
      taskAgentParticipates (buildTaskProjectionIndex messages participants) requestId agentId =
        taskAgentParticipates (buildTaskProjectionIndex messages participants') requestId
          agentId) ∧
    (∀ message ∈ messages, ∀ historical,
      toAgentEvent message agentId (buildTaskProjectionIndex messages participants) historical =
        toAgentEvent message agentId (buildTaskProjectionIndex messages participants')
          historical) ∧
    (∀ attachment,
      toAttachmentEvent attachment agentId (buildTaskProjectionIndex messages participants)
          participants =
        toAttachmentEvent attachment agentId (buildTaskProjectionIndex messages participants')
          participants')) ∧
  ∀ participant ∈ participants.values, participant.kind = .agent → ∀ raw,
    normalizeTaskExecution messages participants participant raw =
      normalizeTaskExecution messages participants' participant raw

/-- Every Agent that a departed Human brought into a Task participated in it already. -/
def AdmissionsRedundant (participants : Participants) (messages : List RoomMessage)
    (departed : String → Bool) : Prop :=
  ∀ requestId i message, messages[i]? = some message → IsTaskText requestId message →
    hasKind participants .human message.peerId = true → departed message.peerId = true →
    (∃ j < i, ∃ earlier, messages[j]? = some earlier ∧ IsTaskRequest requestId earlier) →
    ∀ agentId ∈ agentTargets participants message,
      ∃ j < i, TaskAdmitted participants messages requestId j agentId

/-! ## The participants map after departures -/

lemma get?_removeHumans (id : String) : (removeHumans participants departed).get? id =
      (participants.get? id).filter
        fun participant => !(participant.kind = .human && departed participant.id) :=
  KeyedMap.get?_filter _ _ _

@[simp]
lemma hasKind_agent_removeHumans (id : String) :
    hasKind (removeHumans participants departed) .agent id = hasKind participants .agent id := by
  unfold hasKind
  rw [get?_removeHumans]
  cases hget : participants.get? id with
  | none => rfl
  | some participant =>
    cases hkind : participant.kind <;> cases hgone : departed participant.id <;>
      simp [Option.filter, hkind, hgone]

@[simp]
lemma hasKind_human_removeHumans (id : String) :
    hasKind (removeHumans participants departed) .human id =
      (hasKind participants .human id && !departed id) := by
  unfold hasKind
  rw [get?_removeHumans]
  cases hget : participants.get? id with
  | none => rfl
  | some participant =>
    have hkey : participant.id = id := KeyedMap.key_of_get? hget
    cases hkind : participant.kind <;> cases hgone : departed id <;>
      simp [Option.filter, hkind, hkey, hgone]

@[simp]
lemma connectedAgent_removeHumans (id : String) :
    connectedAgent (removeHumans participants departed) id = connectedAgent participants id := by
  unfold connectedAgent
  rw [get?_removeHumans]
  cases hget : participants.get? id with
  | none => rfl
  | some participant =>
    cases hkind : participant.kind <;> cases hgone : departed participant.id <;>
      simp [Option.filter, hkind, hgone]

lemma TaskAdmitted.of_removeHumans {i : ℕ} {agentId : String}
    (h : TaskAdmitted (removeHumans participants departed) messages requestId i agentId) :
    TaskAdmitted participants messages requestId i agentId := by
  induction h with
  | endpoint hat hcollab hkind hid hfirst hendpoint hagent =>
    exact .endpoint hat hcollab hkind hid hfirst hendpoint (by simpa using hagent)
  | byHuman hat htext hopen hsender htarget hagent =>
    simp only [hasKind_human_removeHumans, Bool.and_eq_true] at hsender
    exact .byHuman hat htext hopen hsender.1 htarget (by simpa using hagent)
  | byAgent hat htext _ hlt htarget hagent ih =>
    exact .byAgent hat htext ih hlt htarget (by simpa using hagent)

/-! ## Redundant admissions leave the index unchanged -/

lemma openTask_removeHumans (message : RoomMessage) (collab : CollabEvent) :
    openTask (removeHumans participants departed) message collab =
      openTask participants message collab := by
  simp [openTask, addAgentEndpoint]

lemma observeTaskMessage_removeHumans {task : TaskProjectionTask} {message : RoomMessage}
    (hredundant : (nonempty? message.taskRequestId).isSome →
      hasKind participants .human message.peerId = true → departed message.peerId = true →
        ∀ agentId ∈ agentTargets participants message, agentId ∈ task.participatingAgentIds) :
    observeTaskMessage (removeHumans participants departed) task message =
      observeTaskMessage participants task message := by
  have hsame : task.participatingAgentIds.addAll
      (admittedTargets (removeHumans participants departed) task message) =
        task.participatingAgentIds.addAll (admittedTargets participants task message) := by
    by_cases htext : (nonempty? message.taskRequestId).isSome = true
    · by_cases hgone : hasKind participants .human message.peerId = true ∧
          departed message.peerId = true
      · obtain ⟨hhuman, hdeparted⟩ := hgone
        have hagent : hasKind participants .agent message.peerId = false := by
          by_contra h
          simp [not_human_of_agent (Bool.of_not_eq_false h)] at hhuman
        have hall := hredundant htext hhuman hdeparted
        have hwith : admittedTargets participants task message =
            agentTargets participants message := by
          simp [admittedTargets, senderMayExtendTask_eq, htext, hhuman, agentTargets]
        have hwithout : admittedTargets (removeHumans participants departed) task message =
            [] := by
          simp [admittedTargets, senderMayExtendTask_eq, hdeparted, hagent]
        rw [hwith, hwithout, OrderedSet.addAll_nil, OrderedSet.addAll_eq_self_iff.mpr hall]
      · have hsender : senderMayExtendTask (removeHumans participants departed) task message =
            senderMayExtendTask participants task message := by
          rw [senderMayExtendTask_eq, senderMayExtendTask_eq, hasKind_human_removeHumans,
            hasKind_agent_removeHumans]
          cases hhuman : hasKind participants .human message.peerId <;>
            cases hdeparted : departed message.peerId <;> simp_all
        have hkinds : hasKind (removeHumans participants departed) .agent =
            hasKind participants .agent := funext hasKind_agent_removeHumans
        simp [admittedTargets, hsender, hkinds]
    · simp [admittedTargets, htext]
  simp only [observeTaskMessage, hsame]

lemma indexAfter_removeHumans (hlog : RoomLog messages)
    (hredundant : AdmissionsRedundant participants messages departed) (n : ℕ) :
    indexAfter (removeHumans participants departed) (messages.take n) =
      indexAfter participants (messages.take n) := by
  induction n with
  | zero => rfl
  | succ n ih =>
    by_cases hn : n < messages.length
    · have hat : messages[n]? = some messages[n] := List.getElem?_eq_getElem hn
      rw [List.take_succ_eq_append_getElem hn, indexAfter_concat, indexAfter_concat, ih]
      unfold projectMessage
      cases hopening : openingRequest (indexAfter participants (messages.take n)) messages[n] with
      | some collab => simp only [openTask_removeHumans]
      | none =>
        cases hid : nonempty? (taskRequestIdFor messages[n]) with
        | none => rfl
        | some requestId =>
          cases htask : (indexAfter participants (messages.take n)).tasks.get? requestId with
          | none => simp [htask]
          | some task =>
            simp only [Option.bind_some, htask]
            rw [observeTaskMessage_removeHumans]
            intro htext hhuman hdeparted agentId hagent
            have htext : IsTaskText requestId messages[n] := by
              obtain ⟨other, hother⟩ := Option.isSome_iff_exists.mp htext
              have hsome := nonempty?_eq_some_iff.mp hother
              simp only [taskRequestIdFor, hsome.1] at hid
              rw [IsTaskText, hother]
              simpa using (nonempty?_eq_some_iff.mp hid).1
            have hmember : ∀ id, id ∈ task.participatingAgentIds ↔
                ∃ j < n, TaskAdmitted participants messages requestId j id := by
              intro id
              rw [← isMember_participantsOf_take_iff hlog participants requestId n id]
              simp [participantsOf, htask]
            have hopen : ∃ j < n, ∃ earlier, messages[j]? = some earlier ∧
                IsTaskRequest requestId earlier := by
              have hsome : (participantsOf (indexAfter participants (messages.take n))
                  requestId).isSome := by simp [participantsOf, htask]
              rw [participantsOf_indexAfter participants
                  (fun m hm => hlog.singleScope m (List.mem_of_mem_take hm)),
                List.map_take, GroupEvent.isSome_membersAfter_take,
                foundedBefore_map_taskEvent_iff] at hsome
              exact hsome
            exact (hmember agentId).mpr
              (hredundant requestId n _ hat htext hhuman hdeparted hopen agentId hagent)
    · rw [List.take_of_length_le (by omega), ← List.take_of_length_le (show messages.length ≤ n by
        omega), ih]

lemma resolveTaskRequest_removeHumans (index : TaskProjectionIndex) (rawRequestId : JsValue) :
    resolveTaskRequest index rawRequestId (removeHumans participants departed) =
      resolveTaskRequest index rawRequestId participants := by
  have hconnected : connectedAgent (removeHumans participants departed) =
      connectedAgent participants := funext connectedAgent_removeHumans
  unfold resolveTaskRequest
  rw [hconnected]

/-! ## When departures are harmless -/

lemma taskViewsAgree_of_redundant (hlog : RoomLog messages)
    (hredundant : AdmissionsRedundant participants messages departed) :
    TaskViewsAgree participants (removeHumans participants departed) messages := by
  have hindex : buildTaskProjectionIndex messages (removeHumans participants departed) =
      buildTaskProjectionIndex messages participants := by
    have htake := indexAfter_removeHumans hlog hredundant messages.length
    rw [List.take_length] at htake
    rw [buildTaskProjectionIndex_eq hlog, buildTaskProjectionIndex_eq hlog, htake]
  refine ⟨fun agentId _ => ⟨?_, ?_, ?_⟩, ?_⟩
  · intro requestId
    rw [hindex]
  · intro message _ historical
    rw [hindex]
  · intro attachment
    simp only [toAttachmentEvent, attachmentAddresses, hindex, resolveTaskRequest_removeHumans]
  · intro participant _ _ raw
    simp only [normalizeTaskExecution, hindex, resolveTaskRequest_removeHumans]

lemma redundant_of_taskViewsAgree (hlog : RoomLog messages)
    (hagree : TaskViewsAgree participants (removeHumans participants departed) messages) :
    AdmissionsRedundant participants messages departed := by
  intro requestId i message hat htext hhuman hdeparted hopen agentId htarget
  rw [agentTargets, List.mem_filter] at htarget
  have hmem := List.mem_of_getElem? hat
  have hid : IsTaskMessage requestId message := by
    have hsome := nonempty?_eq_some_iff.mp htext
    simp [IsTaskMessage, taskRequestIdFor, hsome.1, nonempty?_some_of_ne hsome.2]
  have hretained : ∃ m ∈ messages, IsTaskRequest requestId m := by
    obtain ⟨j, -, earlier, hearlier, hrequest⟩ := hopen
    exact ⟨earlier, List.mem_of_getElem? hearlier, hrequest⟩
  -- The Agent sees the message that admits it, so it still sees it after the departures.
  have hsees : seesMessage (buildTaskProjectionIndex messages participants) message agentId
      false = true :=
    (seesMessage_live_iff hlog hretained hat hid).mpr
      ⟨i, le_refl i, .byHuman hat htext hopen hhuman htarget.1 htarget.2⟩
  rw [seesMessage, (hagree.1 agentId htarget.2).2.1 message hmem false] at hsees
  obtain ⟨k, hk, hadmitted⟩ := (seesMessage_live_iff hlog hretained hat hid).mp hsees
  rcases Nat.lt_or_eq_of_le hk with hlt | rfl
  · exact ⟨k, hlt, hadmitted.of_removeHumans⟩
  · -- Without its sender the message itself admits nobody.
    exfalso
    have hcollab := hlog.collab_of_isTaskText hmem htext
    cases hadmitted with
    | endpoint hat' hcollab' =>
      rw [hat] at hat'
      cases hat'
      rw [hcollab] at hcollab'
      cases hcollab'
    | byHuman hat' _ _ hsender =>
      rw [hat] at hat'
      cases hat'
      simp [hdeparted] at hsender
    | byAgent hat' _ hsender =>
      rw [hat] at hat'
      cases hat'
      have hagent := hsender.isAgent
      rw [hasKind_agent_removeHumans] at hagent
      simp [not_human_of_agent hagent] at hhuman

/-- **Task views and Human presence.** The departure of a set of Humans leaves every Task view of
the remaining Agents unchanged if and only if every Agent that a departed Human brought into a
Task participated in it already. -/
theorem taskViewsAgree_removeHumans_iff (hlog : RoomLog messages) (participants : Participants)
    (departed : String → Bool) :
    TaskViewsAgree participants (removeHumans participants departed) messages ↔
      AdmissionsRedundant participants messages departed :=
  ⟨redundant_of_taskViewsAgree hlog, taskViewsAgree_of_redundant hlog⟩

/-- While the Task has only its request, the departure of its requester is harmless. -/
theorem taskViewsAgree_removeHumans_iff_requested :
    TaskViewsAgree delegationRoster (removeHumans delegationRoster fun id => id = "human")
      (delegationLog.take 1) := by
  have hlog : RoomLog (delegationLog.take 1) := ⟨by decide, by decide⟩
  refine (taskViewsAgree_removeHumans_iff hlog delegationRoster _).mpr ?_
  intro requestId i message hat htext
  have hmem := List.mem_of_getElem? hat
  have hnone : ∀ m ∈ delegationLog.take 1, m.taskRequestId = none := by decide
  rw [IsTaskText, hnone message hmem] at htext
  cases htext

/-- When the Human departs that brought the second Agent into the delegated Task, the Agent no
longer participates, no longer sees the message addressed to it and may not publish its
execution. -/
theorem not_taskViewsAgree_departedHuman :
    ¬ (∀ participants messages departed, RoomLog messages →
      TaskViewsAgree participants (removeHumans participants departed) messages) := by
  intro hall
  have hagree := hall delegationRoster delegationLog (fun id => id = "human")
    roomLog_delegationLog
  have hparticipates := (hagree.1 "agent-b" (by decide)).1 "task-T"
  revert hparticipates
  decide

end Free4Chat
