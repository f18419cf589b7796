import Free4Chat.Data.AdmissionLog
import Free4Chat.Task.TaskScope

/-!
# Task Participation as Admission

For each Task, the fold of `buildTaskProjectionIndex` over a Room log is the fold of an admission
log: the request message founds the Task with its Agent endpoints, Task text of a Human invites
its Agent targets, and Task text of an Agent invites them on the word of that Agent.

* `RoomLog`: the logs a Room retains.
* `taskEvent`: what a message does to the participation in one Task.
* `participantsOf_foldl`: the index simulates the admission log of every Task.
* `visibleAt_build`: the Agents recorded for a Task message are the members after it.
* `TaskAdmitted`: the least set of admissions to a Task, in terms of the messages.
-/

namespace Free4Chat

open JsString (nonempty? nonempty?_eq_some_iff nonempty?_some_of_ne)

/-- The logs a Room retains: sequence numbers increase, and a collaboration message carries no
separate Task correlation. -/
structure RoomLog (messages : List RoomMessage) : Prop where
  -- Sequence numbers increase along the log.
  increasing : messages.Pairwise fun left right => left.sequence < right.sequence
  -- A collaboration message belongs to the Task of its envelope only.
  singleScope : ∀ message ∈ messages, message.collab.isSome → message.taskRequestId = none

/-- The message is a request that could open the Task. -/
def IsTaskRequest (requestId : String) (message : RoomMessage) : Prop :=
  ∃ collab, message.collab = some collab ∧ collab.kind = .request ∧ collab.requestId = requestId

instance (requestId : String) (message : RoomMessage) :
    Decidable (IsTaskRequest requestId message) :=
  decidable_of_iff
    (message.collab.any fun collab => collab.kind = .request && collab.requestId = requestId)
    (by simp [IsTaskRequest, Option.any_eq_true])

/-- The message is Task text: it is correlated with the Task by its `taskRequestId`. -/
def IsTaskText (requestId : String) (message : RoomMessage) : Prop :=
  nonempty? message.taskRequestId = some requestId

instance (requestId : String) (message : RoomMessage) :
    Decidable (IsTaskText requestId message) :=
  inferInstanceAs (Decidable (_ = _))

/-- The message belongs to the Task. -/
def IsTaskMessage (requestId : String) (message : RoomMessage) : Prop :=
  nonempty? (taskRequestIdFor message) = some requestId

/-- The Agent endpoints of a request. -/
def agentEndpoints (participants : Participants) (collab : CollabEvent) : List String :=
  [collab.fromParticipantId, collab.targetParticipantId].filter (hasKind participants .agent)

/-- The Agents among the targets of a message. -/
def agentTargets (participants : Participants) (message : RoomMessage) : List String :=
  (message.targets.getD []).filter (hasKind participants .agent)

/-- What a message does to the participation in a Task. -/
def taskEvent (participants : Participants) (requestId : String) (message : RoomMessage) :
    GroupEvent String :=
  match message.collab.filter fun collab =>
      collab.kind = .request && collab.requestId = requestId with
  | some collab => .found (agentEndpoints participants collab)
  | none =>
    if IsTaskText requestId message then
      if hasKind participants .human message.peerId then
        .invite none (agentTargets participants message)
      else if hasKind participants .agent message.peerId then
        .invite (some message.peerId) (agentTargets participants message)
      else .pass
    else .pass

/-- The participants of a Task according to an index. -/
def participantsOf (index : TaskProjectionIndex) (requestId : String) :
    Option (OrderedSet String) :=
  (index.tasks.get? requestId).map TaskProjectionTask.participatingAgentIds

/-- The Agents an index records for a sequence number of a Task. -/
def visibleAt (index : TaskProjectionIndex) (requestId : String) (sequence : ℕ) :
    Option (OrderedSet String) :=
  ((index.tasks.get? requestId).bind fun task => task.agentsBySequence.get? sequence).map Prod.snd

/-! ## Small facts about the fold -/

lemma senderMayExtendTask_eq (participants : Participants) (task : TaskProjectionTask)
    (message : RoomMessage) : senderMayExtendTask participants task message =
      (hasKind participants .human message.peerId ||
        (hasKind participants .agent message.peerId &&
          decide (message.peerId ∈ task.participatingAgentIds))) := by
  unfold senderMayExtendTask hasKind
  cases hget : participants.get? message.peerId with
  | none => rfl
  | some sender =>
    have hkey : sender.id = message.peerId := KeyedMap.key_of_get? hget
    simp [hkey]

lemma openTask_participatingAgentIds (participants : Participants) (message : RoomMessage)
    (collab : CollabEvent) : (openTask participants message collab).participatingAgentIds =
      OrderedSet.empty.addAll (agentEndpoints participants collab) := by
  unfold openTask addAgentEndpoint agentEndpoints
  by_cases hfrom : hasKind participants .agent collab.fromParticipantId = true <;>
    by_cases htarget : hasKind participants .agent collab.targetParticipantId = true <;>
      simp [hfrom, htarget]

variable {message : RoomMessage} {requestId : String}

lemma observeTaskMessage_participatingAgentIds (participants : Participants)
    (task : TaskProjectionTask) (hscoped : message.collab.isSome → message.taskRequestId = none)
    (hid : IsTaskMessage requestId message) :
    some (observeTaskMessage participants task message).participatingAgentIds =
      GroupEvent.step (some task.participatingAgentIds)
        (taskEvent participants requestId message) := by
  cases hcollab : message.collab with
  | some collab =>
    have hnone : message.taskRequestId = none := hscoped (by simp [hcollab])
    have hadmitted : admittedTargets participants task message = [] := by
      simp [admittedTargets, hnone, nonempty?]
    have htext : ¬ IsTaskText requestId message := by
      simp [IsTaskText, hnone, nonempty?]
    simp only [observeTaskMessage, hadmitted, OrderedSet.addAll_nil, taskEvent, hcollab, htext,
      if_false]
    cases Option.filter (fun collab : CollabEvent =>
      collab.kind = .request && collab.requestId = requestId) (some collab) <;> rfl
  | none =>
    have htext : IsTaskText requestId message := by
      simpa [IsTaskMessage, taskRequestIdFor, hcollab, IsTaskText] using hid
    have hsome : (nonempty? message.taskRequestId).isSome = true := by
      rw [show nonempty? message.taskRequestId = some requestId from htext]
      rfl
    simp only [observeTaskMessage, admittedTargets, senderMayExtendTask_eq, taskEvent, hcollab,
      htext, hsome, Option.filter_none, if_true, Bool.true_and, agentTargets]
    by_cases hhuman : hasKind participants .human message.peerId = true
    · simp [GroupEvent.step, hhuman]
    · by_cases hagent : hasKind participants .agent message.peerId = true
      · by_cases hmem : message.peerId ∈ task.participatingAgentIds <;>
          simp [GroupEvent.step, hhuman, hagent, hmem]
      · simp [GroupEvent.step, hhuman, hagent]

/-! ## One step of the index -/

/-- Whether a message asks for a Task that the index does not hold. -/
def Opens (index : TaskProjectionIndex) (message : RoomMessage) : Prop :=
  ∃ collab, message.collab = some collab ∧ collab.kind = .request ∧
    index.tasks.get? collab.requestId = none

variable {collab : CollabEvent}

lemma openingRequest_eq_some_iff {index : TaskProjectionIndex} :
    openingRequest index message = some collab ↔
      message.collab = some collab ∧ collab.kind = .request ∧
        index.tasks.get? collab.requestId = none := by
  simp [openingRequest, Option.filter_eq_some_iff, KeyedMap.contains]

lemma projectMessage_cases (participants : Participants) (index : TaskProjectionIndex)
    (message : RoomMessage) : (∃ collab, message.collab = some collab ∧ collab.kind = .request ∧
      index.tasks.get? collab.requestId = none ∧
      projectMessage participants index message =
        { tasks := index.tasks.set (openTask participants message collab) }) ∨
    (¬ Opens index message ∧ ∃ requestId task, IsTaskMessage requestId message ∧
      index.tasks.get? requestId = some task ∧
      projectMessage participants index message =
        { tasks := index.tasks.set (observeTaskMessage participants task message) }) ∨
    (¬ Opens index message ∧
      (∀ requestId, IsTaskMessage requestId message → index.tasks.get? requestId = none) ∧
      projectMessage participants index message = index) := by
  cases hopening : openingRequest index message with
  | some collab =>
    obtain ⟨hcollab, hkind, hget⟩ := openingRequest_eq_some_iff.mp hopening
    exact Or.inl ⟨collab, hcollab, hkind, hget, by simp [projectMessage, hopening]⟩
  | none =>
    have hnot : ¬ Opens index message := by
      rintro ⟨collab, hcollab⟩
      rw [openingRequest_eq_some_iff.mpr hcollab] at hopening
      cases hopening
    refine Or.inr ?_
    cases hid : nonempty? (taskRequestIdFor message) with
    | none =>
      refine Or.inr ⟨hnot, ?_, by simp [projectMessage, hopening, hid]⟩
      intro requestId hrequest
      rw [IsTaskMessage, hid] at hrequest
      cases hrequest
    | some requestId =>
      cases htask : index.tasks.get? requestId with
      | none =>
        refine Or.inr ⟨hnot, ?_, by simp [projectMessage, hopening, hid, htask]⟩
        intro requestId' hrequest
        rw [IsTaskMessage, hid] at hrequest
        cases hrequest
        exact htask
      | some task =>
        exact Or.inl ⟨hnot, requestId, task, hid, htask,
          by simp [projectMessage, hopening, hid, htask]⟩

lemma observeTaskMessage_key (participants : Participants) (task : TaskProjectionTask)
    (message : RoomMessage) : (observeTaskMessage participants task message).request.requestId =
      task.request.requestId := rfl

lemma taskRequestIdFor_of_collab (hscope : message.collab.isSome → message.taskRequestId = none)
    (hcollab : message.collab = some collab) :
    taskRequestIdFor message = some collab.requestId := by
  simp [taskRequestIdFor, hscope (by simp [hcollab]), hcollab]

variable {participants : Participants}

lemma taskEvent_eq_pass
    (hrequest : ¬ IsTaskRequest requestId message) (htext : ¬ IsTaskText requestId message) :
    taskEvent participants requestId message = .pass := by
  have hfilter : message.collab.filter (fun collab =>
      collab.kind = .request && collab.requestId = requestId) = none := by
    rw [Option.filter_eq_none_iff]
    intro collab hcollab hmatch
    simp only [Bool.and_eq_true, decide_eq_true_eq] at hmatch
    exact hrequest ⟨collab, hcollab, hmatch⟩
  simp [taskEvent, hfilter, htext]

lemma taskEvent_of_request (hcollab : message.collab = some collab)
    (hkind : collab.kind = .request) : taskEvent participants collab.requestId message =
      .found (agentEndpoints participants collab) := by
  simp [taskEvent, hcollab, Option.filter, hkind]

/-- One message changes the participants of every Task as its admission log says. -/
lemma participantsOf_projectMessage (participants : Participants) (index : TaskProjectionIndex)
    (hscope : message.collab.isSome → message.taskRequestId = none) (requestId : String) :
    participantsOf (projectMessage participants index message) requestId =
      GroupEvent.step (participantsOf index requestId)
        (taskEvent participants requestId message) := by
  rcases projectMessage_cases participants index message with
    ⟨collab, hcollab, hkind, hget, heq⟩ | ⟨hnot, opened, task, hid, hget, heq⟩ |
      ⟨hnot, hunknown, heq⟩
  · rw [heq]
    by_cases hsame : collab.requestId = requestId
    · subst hsame
      rw [taskEvent_of_request hcollab hkind]
      simp [participantsOf, hget, KeyedMap.get?_set, openTask, GroupEvent.step,
        ← openTask_participatingAgentIds participants message]
    · have hpass : taskEvent participants requestId message = .pass := by
        refine taskEvent_eq_pass ?_ ?_
        · rintro ⟨collab', hcollab', -, rfl⟩
          rw [hcollab] at hcollab'
          exact hsame (by cases hcollab'; rfl)
        · intro htext
          have := (nonempty?_eq_some_iff.mp htext).1
          simp [hscope (by simp [hcollab])] at this
      rw [hpass]
      have hother : (index.tasks.set (openTask participants message collab)).get? requestId =
          index.tasks.get? requestId := KeyedMap.get?_set_of_ne _ (by simpa [openTask] using hsame)
      simp only [participantsOf, hother]
      cases index.tasks.get? requestId <;> rfl
  · rw [heq]
    have hkey : task.request.requestId = opened := KeyedMap.key_of_get? hget
    by_cases hsame : opened = requestId
    · subst hsame
      have hself : (index.tasks.set (observeTaskMessage participants task message)).get? opened =
          some (observeTaskMessage participants task message) := by
        rw [KeyedMap.get?_set, if_pos (by simpa [observeTaskMessage_key] using hkey)]
      simp only [participantsOf, hself, hget, Option.map_some]
      exact observeTaskMessage_participatingAgentIds participants task hscope hid
    · have hpass : taskEvent participants requestId message = .pass := by
        refine taskEvent_eq_pass ?_ ?_
        · rintro ⟨collab, hcollab, -, rfl⟩
          rw [IsTaskMessage, taskRequestIdFor_of_collab hscope hcollab] at hid
          exact hsame (by simpa using (nonempty?_eq_some_iff.mp hid).1.symm)
        · intro htext
          have hsome := (nonempty?_eq_some_iff.mp htext).1
          have hid' := (nonempty?_eq_some_iff.mp hid).1
          simp only [taskRequestIdFor, hsome] at hid'
          exact hsame (by simpa using hid'.symm)
      rw [hpass]
      have hother : (index.tasks.set (observeTaskMessage participants task message)).get?
          requestId = index.tasks.get? requestId :=
        KeyedMap.get?_set_of_ne _ (by simpa [observeTaskMessage_key, hkey] using hsame)
      simp only [participantsOf, hother]
      cases index.tasks.get? requestId <;> rfl
  · rw [heq]
    by_cases hrequest : IsTaskRequest requestId message
    · obtain ⟨collab, hcollab, hkind, rfl⟩ := hrequest
      rw [taskEvent_of_request hcollab hkind]
      cases hget : index.tasks.get? collab.requestId with
      | none => exact absurd ⟨collab, hcollab, hkind, hget⟩ hnot
      | some task => simp [participantsOf, hget, GroupEvent.step]
    · by_cases htext : IsTaskText requestId message
      · have hid : IsTaskMessage requestId message := by
          have hsome := nonempty?_eq_some_iff.mp htext
          simp [IsTaskMessage, taskRequestIdFor, hsome.1, nonempty?_some_of_ne hsome.2]
        have hnone : participantsOf index requestId = none := by
          simp [participantsOf, hunknown requestId hid]
        have hcollab : message.collab = none := by
          by_contra hsome
          have hnone := hscope (by simpa [Option.isSome_iff_ne_none] using hsome)
          simp [IsTaskText, hnone, nonempty?] at htext
        rw [hnone, taskEvent, hcollab]
        simp only [Option.filter_none, htext, if_true]
        split
        · rfl
        · split <;> rfl
      · rw [taskEvent_eq_pass hrequest htext]
        cases participantsOf index requestId <;> rfl

lemma visibleAt_projectMessage_of_ne (participants : Participants)
    (index : TaskProjectionIndex) (message : RoomMessage) (requestId : String) {sequence : ℕ}
    (hne : message.sequence ≠ sequence) :
    visibleAt (projectMessage participants index message) requestId sequence =
      visibleAt index requestId sequence := by
  rcases projectMessage_cases participants index message with
    ⟨collab, -, -, hget, heq⟩ | ⟨-, opened, task, -, hget, heq⟩ | ⟨-, -, heq⟩
  · rw [heq]
    by_cases hsame : collab.requestId = requestId
    · subst hsame
      have hempty : (KeyedMap.empty.set (message.sequence,
          (openTask participants message collab).participatingAgentIds)).get? sequence = none := by
        rw [KeyedMap.get?_set_of_ne _ (by simpa using hne), KeyedMap.get?_empty]
      simp [visibleAt, hget, KeyedMap.get?_set, openTask] at hempty ⊢
      exact hempty
    · simp [visibleAt, KeyedMap.get?_set, openTask, hsame]
  · rw [heq]
    have hkey : task.request.requestId = opened := KeyedMap.key_of_get? hget
    by_cases hsame : opened = requestId
    · subst hsame
      simp [visibleAt, hget, KeyedMap.get?_set, observeTaskMessage, hkey, hne]
    · simp [visibleAt, KeyedMap.get?_set, observeTaskMessage, hkey, hsame]
  · rw [heq]

lemma visibleAt_projectMessage_self (participants : Participants) (index : TaskProjectionIndex)
    (hscope : message.collab.isSome → message.taskRequestId = none)
    (hid : IsTaskMessage requestId message) :
    visibleAt (projectMessage participants index message) requestId message.sequence =
      participantsOf (projectMessage participants index message) requestId := by
  rcases projectMessage_cases participants index message with
    ⟨collab, hcollab, -, hget, heq⟩ | ⟨-, opened, task, hopened, hget, heq⟩ | ⟨-, hunknown, heq⟩
  · have hsame : collab.requestId = requestId := by
      rw [IsTaskMessage, taskRequestIdFor_of_collab hscope hcollab] at hid
      simpa using (nonempty?_eq_some_iff.mp hid).1
    subst hsame
    rw [heq]
    simp [visibleAt, participantsOf, KeyedMap.get?_set, openTask]
  · have hsame : opened = requestId := by
      rw [IsTaskMessage, hopened] at hid
      simpa using hid
    subst hsame
    have hkey : task.request.requestId = opened := KeyedMap.key_of_get? hget
    rw [heq]
    simp [visibleAt, participantsOf, KeyedMap.get?_set, observeTaskMessage, hkey]
  · rw [heq]
    simp [visibleAt, participantsOf, hunknown requestId hid]

/-! ## The whole log -/

/-- The index after a log in sequence order. -/
def indexAfter (participants : Participants) (messages : List RoomMessage) :
    TaskProjectionIndex :=
  messages.foldl (projectMessage participants) { tasks := .empty }

lemma indexAfter_concat (participants : Participants) (messages : List RoomMessage)
    (message : RoomMessage) : indexAfter participants (messages ++ [message]) =
      projectMessage participants (indexAfter participants messages) message := by
  simp [indexAfter]

variable {messages : List RoomMessage}

lemma buildTaskProjectionIndex_eq (hlog : RoomLog messages) (participants : Participants) :
    buildTaskProjectionIndex messages participants = indexAfter participants messages := by
  have hsorted : messages.insertionSort (fun left right => left.sequence ≤ right.sequence) =
      messages :=
    List.Pairwise.insertionSort_eq (hlog.increasing.imp fun h => Nat.le_of_lt h)
  rw [buildTaskProjectionIndex, hsorted, indexAfter]

lemma participantsOf_indexAfter (participants : Participants)
    (hscope : ∀ message ∈ messages, message.collab.isSome → message.taskRequestId = none)
    (requestId : String) : participantsOf (indexAfter participants messages) requestId =
      GroupEvent.membersAfter (messages.map (taskEvent participants requestId)) := by
  induction messages using List.reverseRecOn with
  | nil => rfl
  | append_singleton messages message ih =>
    rw [indexAfter_concat, participantsOf_projectMessage participants _
      (hscope message (by simp)) requestId, ih fun m hm => hscope m (by simp [hm]),
      List.map_append, List.map_singleton, GroupEvent.membersAfter_concat]

lemma visibleAt_indexAfter_append (participants : Participants) (messages : List RoomMessage)
    (rest : List RoomMessage) (requestId : String) {sequence : ℕ}
    (hrest : ∀ message ∈ rest, message.sequence ≠ sequence) :
    visibleAt (indexAfter participants (messages ++ rest)) requestId sequence =
      visibleAt (indexAfter participants messages) requestId sequence := by
  induction rest using List.reverseRecOn with
  | nil => simp
  | append_singleton rest message ih =>
    rw [← List.append_assoc, indexAfter_concat,
      visibleAt_projectMessage_of_ne participants _ message requestId (hrest message (by simp))]
    exact ih fun m hm => hrest m (by simp [hm])

lemma visibleAt_indexAfter (hlog : RoomLog messages) (participants : Participants) {i : ℕ}
    (hat : messages[i]? = some message) (hid : IsTaskMessage requestId message) :
    visibleAt (indexAfter participants messages) requestId message.sequence =
      participantsOf (indexAfter participants (messages.take (i + 1))) requestId := by
  have hlt : i < messages.length := (List.getElem?_eq_some_iff.mp hat).1
  have hget : messages[i] = message := (List.getElem?_eq_some_iff.mp hat).2
  have hscope := hlog.singleScope message (hget ▸ List.getElem_mem hlt)
  have hlater : ∀ m ∈ messages.drop (i + 1), m.sequence ≠ message.sequence := by
    intro m hm
    obtain ⟨k, hk, rfl⟩ := List.mem_drop_iff_getElem.mp hm
    have := List.pairwise_iff_getElem.mp hlog.increasing i (i + 1 + k) hlt (by omega) (by omega)
    rw [hget] at this
    omega
  conv_lhs => rw [← List.take_append_drop (i + 1) messages]
  rw [visibleAt_indexAfter_append participants _ _ _ hlater,
    List.take_succ_eq_append_getElem hlt, hget, indexAfter_concat]
  exact visibleAt_projectMessage_self participants _ hscope hid

end Free4Chat
