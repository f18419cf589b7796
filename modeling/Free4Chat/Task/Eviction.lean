import Free4Chat.Task.Confinement

/-!
# Eviction from the Room Log

A Room retains the last messages of its log only, and derives Task participation from what it
retains. Forgetting messages can hide Task events from an Agent but reveals none, as long as no two
requests carry one id: a Task whose request is forgotten is hidden as a whole, and a Task whose
request is retained has lost invitations at most.

* `TaskProjectionIndex.Within`: everything visible by one index is visible by another.
* `within_foldl`: the index of a sublist of a log is within the index of the log.
* `visibleTaskEvents_of_suffix`: a suffix of a log shows no Task event that the log hides.
-/

namespace Free4Chat

open JsString (nonempty?)

/-- No two requests of a log carry one id. -/
def UniqueRequests (messages : List RoomMessage) : Prop :=
  messages.Pairwise fun left right =>
    ∀ requestId, IsTaskRequest requestId left → ¬ IsTaskRequest requestId right

/-- The index entry shows no message to an Agent that the other entry hides from it. -/
structure TaskProjectionTask.Within (small large : TaskProjectionTask) : Prop where
  -- Both entries stand for the same Task.
  sameKey : small.request.requestId = large.request.requestId
  -- Live and historical reads admit no further Agent.
  visible : ∀ (message : RoomMessage) (historical : Bool) (agentId : String),
    agentId ∈ visibleAgentIds small message historical →
      agentId ∈ visibleAgentIds large message historical

/-- Every Agent that an index entry records for a message participates in the Task. -/
def TaskProjectionTask.Settled (task : TaskProjectionTask) : Prop :=
  ∀ (message : RoomMessage) (agentId : String),
    agentId ∈ visibleAgentIds task message false → agentId ∈ task.participatingAgentIds

/-- The index shows no Task message to an Agent that the other index hides from it. -/
def TaskProjectionIndex.Within (small large : TaskProjectionIndex) : Prop :=
  ∀ requestId task, small.tasks.get? requestId = some task →
    ∃ task', large.tasks.get? requestId = some task' ∧ task.Within task'

/-- Every entry of the index is settled. -/
def TaskProjectionIndex.Settled (index : TaskProjectionIndex) : Prop :=
  ∀ requestId task, index.tasks.get? requestId = some task → task.Settled

/-! ## One entry -/

lemma visibleAgentIds_observeTaskMessage (participants : Participants)
    (task : TaskProjectionTask) (observed message : RoomMessage) :
    visibleAgentIds (observeTaskMessage participants task observed) message false =
      if observed.sequence = message.sequence then
        task.participatingAgentIds.addAll (admittedTargets participants task observed)
      else visibleAgentIds task message false := by
  by_cases hsame : observed.sequence = message.sequence
  · simp [visibleAgentIds, observeTaskMessage, KeyedMap.get?_set, hsame]
  · simp [visibleAgentIds, observeTaskMessage, KeyedMap.get?_set, hsame]

lemma visibleAgentIds_openTask (participants : Participants) (opening message : RoomMessage)
    (collab : CollabEvent) : visibleAgentIds (openTask participants opening collab) message false =
      if opening.sequence = message.sequence then
        (openTask participants opening collab).participatingAgentIds
      else .empty := by
  by_cases hsame : opening.sequence = message.sequence
  · simp [visibleAgentIds, openTask, KeyedMap.get?_set, hsame]
  · simp [visibleAgentIds, openTask, KeyedMap.get?_set, hsame]

namespace TaskProjectionTask

lemma Within.refl (task : TaskProjectionTask) : task.Within task :=
  ⟨rfl, fun _ _ _ hagent => hagent⟩

lemma Within.trans {first second third : TaskProjectionTask} (h : first.Within second)
    (h' : second.Within third) : first.Within third :=
  ⟨h.sameKey.trans h'.sameKey, fun message historical agentId hagent =>
    h'.visible message historical agentId (h.visible message historical agentId hagent)⟩

lemma settled_openTask (participants : Participants) (message : RoomMessage)
    (collab : CollabEvent) : (openTask participants message collab).Settled := by
  intro other agentId hagent
  rw [visibleAgentIds_openTask] at hagent
  split at hagent
  · exact hagent
  · simp at hagent

variable {task : TaskProjectionTask}

lemma Settled.observe (h : task.Settled) (participants : Participants) (message : RoomMessage) :
    (observeTaskMessage participants task message).Settled := by
  intro other agentId hagent
  rw [visibleAgentIds_observeTaskMessage] at hagent
  split at hagent
  · exact hagent
  · exact OrderedSet.mem_addAll.mpr (Or.inl (h other agentId hagent))

lemma Settled.within_observe (h : task.Settled)
    (participants : Participants) (message : RoomMessage) :
    task.Within (observeTaskMessage participants task message) := by
  refine ⟨rfl, fun other historical agentId hagent => ?_⟩
  cases historical with
  | true => exact OrderedSet.mem_addAll.mpr (Or.inl hagent)
  | false =>
    rw [visibleAgentIds_observeTaskMessage]
    split
    · exact OrderedSet.mem_addAll.mpr (Or.inl (h other agentId hagent))
    · exact hagent

lemma Within.admittedTargets_subset {small large : TaskProjectionTask}
    (h : small.Within large) (participants : Participants) {message : RoomMessage}
    {agentId : String} (hagent : agentId ∈ admittedTargets participants small message) :
    agentId ∈ admittedTargets participants large message := by
  have hsender : senderMayExtendTask participants small message = true →
      senderMayExtendTask participants large message = true := by
    simp only [senderMayExtendTask_eq, Bool.or_eq_true, Bool.and_eq_true, decide_eq_true_eq]
    rintro (hhuman | ⟨hkind, hmem⟩)
    · exact Or.inl hhuman
    · exact Or.inr ⟨hkind, h.visible message true _ hmem⟩
  unfold admittedTargets at hagent ⊢
  split at hagent
  next hmay =>
    rw [Bool.and_eq_true] at hmay
    rwa [if_pos (by simp [hmay.1, hsender hmay.2])]
  next => simp at hagent

lemma Within.observe {small large : TaskProjectionTask} (h : small.Within large)
    (participants : Participants) (message : RoomMessage) :
    (observeTaskMessage participants small message).Within
      (observeTaskMessage participants large message) := by
  have hmembers : ∀ agentId,
      agentId ∈ small.participatingAgentIds.addAll (admittedTargets participants small message) →
      agentId ∈ large.participatingAgentIds.addAll
        (admittedTargets participants large message) := by
    intro agentId hagent
    rcases OrderedSet.mem_addAll.mp hagent with hmember | htarget
    · exact OrderedSet.mem_addAll.mpr (Or.inl (h.visible message true _ hmember))
    · exact OrderedSet.mem_addAll.mpr (Or.inr (h.admittedTargets_subset participants htarget))
  refine ⟨h.sameKey, fun other historical agentId hagent => ?_⟩
  cases historical with
  | true => exact hmembers agentId hagent
  | false =>
    rw [visibleAgentIds_observeTaskMessage] at hagent ⊢
    by_cases hsame : message.sequence = other.sequence
    · rw [if_pos hsame] at hagent ⊢
      exact hmembers agentId hagent
    · rw [if_neg hsame] at hagent ⊢
      exact h.visible other false agentId hagent

end TaskProjectionTask

/-! ## One message -/

namespace TaskProjectionIndex

variable {index : TaskProjectionIndex}

lemma isTaskRequest_of_get?_projectMessage {participants : Participants}
    {message : RoomMessage} {requestId : String} (hbefore : index.tasks.get? requestId = none)
    (hafter : (projectMessage participants index message).tasks.get? requestId ≠ none) :
    IsTaskRequest requestId message := by
  rcases projectMessage_cases participants index message with
    ⟨collab, hcollab, hkind, -, heq⟩ | ⟨-, opened, task, -, htask, heq⟩ | ⟨-, -, heq⟩
  · rw [heq, KeyedMap.get?_set] at hafter
    split at hafter
    next hkey => exact ⟨collab, hcollab, hkind, by simpa [openTask] using hkey⟩
    next => exact absurd hbefore hafter
  · have hkey : task.request.requestId = opened := KeyedMap.key_of_get? htask
    rw [heq, KeyedMap.get?_set] at hafter
    split at hafter
    next hsame =>
      have : opened = requestId := by simpa [observeTaskMessage_key, hkey] using hsame
      rw [← this, htask] at hbefore
      cases hbefore
    next => exact absurd hbefore hafter
  · rw [heq] at hafter
    exact absurd hbefore hafter

lemma Settled.project (h : index.Settled) (participants : Participants) (message : RoomMessage) :
    (projectMessage participants index message).Settled := by
  intro requestId task htask
  rcases projectMessage_cases participants index message with
    ⟨collab, -, -, -, heq⟩ | ⟨-, opened, task', -, htask', heq⟩ | ⟨-, -, heq⟩
  · rw [heq, KeyedMap.get?_set] at htask
    split at htask
    next =>
      cases htask
      exact TaskProjectionTask.settled_openTask participants message collab
    next => exact h requestId task htask
  · rw [heq, KeyedMap.get?_set] at htask
    split at htask
    next =>
      cases htask
      exact (h opened task' htask').observe participants message
    next => exact h requestId task htask
  · rw [heq] at htask
    exact h requestId task htask

lemma Settled.within_projectMessage (h : index.Settled)
    (participants : Participants) (message : RoomMessage) :
    index.Within (projectMessage participants index message) := by
  intro requestId task htask
  rcases projectMessage_cases participants index message with
    ⟨collab, -, -, hnone, heq⟩ | ⟨-, opened, task', -, htask', heq⟩ | ⟨-, -, heq⟩
  · have hne : collab.requestId ≠ requestId := by
      rintro rfl
      rw [hnone] at htask
      cases htask
    refine ⟨task, ?_, .refl task⟩
    rw [heq, KeyedMap.get?_set_of_ne _ (by simpa [openTask] using hne), htask]
  · have hkey : task'.request.requestId = opened := KeyedMap.key_of_get? htask'
    by_cases hsame : opened = requestId
    · subst hsame
      obtain rfl : task' = task := by simpa [htask'] using htask
      refine ⟨observeTaskMessage participants task' message, ?_,
        (h opened task' htask').within_observe participants message⟩
      rw [heq, KeyedMap.get?_set, if_pos (by simpa [observeTaskMessage_key] using hkey)]
    · refine ⟨task, ?_, .refl task⟩
      rw [heq, KeyedMap.get?_set_of_ne _ (by simpa [observeTaskMessage_key, hkey] using hsame),
        htask]
  · rw [heq]
    exact ⟨task, htask, .refl task⟩

lemma Within.trans {first second third : TaskProjectionIndex} (h : first.Within second)
    (h' : second.Within third) : first.Within third := by
  intro requestId task htask
  obtain ⟨task', htask', hwithin⟩ := h requestId task htask
  obtain ⟨task'', htask'', hwithin'⟩ := h' requestId task' htask'
  exact ⟨task'', htask'', hwithin.trans hwithin'⟩

/-- The same message on both sides keeps the smaller index within the larger, if it asks for no
Task that the larger index holds already. -/
lemma Within.project {small large : TaskProjectionIndex} (h : small.Within large)
    (hlarge : large.Settled) (participants : Participants) {message : RoomMessage}
    (hnew : ∀ requestId, IsTaskRequest requestId message →
      large.tasks.get? requestId = none) : (projectMessage participants small message).Within
      (projectMessage participants large message) := by
  have hgrown : small.Within (projectMessage participants large message) :=
    h.trans (hlarge.within_projectMessage participants message)
  rcases projectMessage_cases participants small message with
    ⟨collab, hcollab, hkind, -, heq⟩ | ⟨hnot, opened, task, hid, htask, heq⟩ | ⟨-, -, heq⟩
  · -- The message opens its Task in both indexes.
    have hnone := hnew collab.requestId ⟨collab, hcollab, hkind, rfl⟩
    have hopens : openingRequest large message = some collab :=
      openingRequest_eq_some_iff.mpr ⟨hcollab, hkind, hnone⟩
    have hlargeEq : projectMessage participants large message =
        { tasks := large.tasks.set (openTask participants message collab) } := by
      simp [projectMessage, hopens]
    intro requestId task htask
    rw [heq, KeyedMap.get?_set] at htask
    split at htask
    next hkey =>
      cases htask
      exact ⟨openTask participants message collab,
        by rw [hlargeEq, KeyedMap.get?_set, if_pos hkey], .refl _⟩
    next => exact hgrown requestId task htask
  · -- The message belongs to a Task of both indexes.
    obtain ⟨task', htask', hwithin⟩ := h opened task htask
    have hkey : task.request.requestId = opened := KeyedMap.key_of_get? htask
    have hkey' : task'.request.requestId = opened := KeyedMap.key_of_get? htask'
    have hnotLarge : ¬ Opens large message := by
      rintro ⟨collab, hcollab, hkind, hget⟩
      refine hnot ⟨collab, hcollab, hkind, ?_⟩
      cases hsmall : small.tasks.get? collab.requestId with
      | none => rfl
      | some other =>
        obtain ⟨other', hother', -⟩ := h collab.requestId other hsmall
        rw [hget] at hother'
        cases hother'
    have hlargeEq : projectMessage participants large message =
        { tasks := large.tasks.set (observeTaskMessage participants task' message) } := by
      rcases projectMessage_cases participants large message with
        ⟨collab, hcollab, hkind, hget, -⟩ | ⟨-, opened', task'', hid', htask'', heq'⟩ |
          ⟨-, hunknown, -⟩
      · exact absurd ⟨collab, hcollab, hkind, hget⟩ hnotLarge
      · have hsame : opened' = opened := by
          rw [IsTaskMessage, hid] at hid'
          cases hid'
          rfl
        subst hsame
        rw [htask'] at htask''
        cases htask''
        exact heq'
      · rw [hunknown opened hid] at htask'
        cases htask'
    intro requestId other hother
    rw [heq, KeyedMap.get?_set] at hother
    split at hother
    next hsame =>
      cases hother
      have hopened : opened = requestId := by simpa [observeTaskMessage_key, hkey] using hsame
      refine ⟨observeTaskMessage participants task' message, ?_,
        hwithin.observe participants message⟩
      rw [hlargeEq, KeyedMap.get?_set,
        if_pos (by simpa [observeTaskMessage_key, hkey'] using hopened)]
    next => exact hgrown requestId other hother
  · rw [heq]
    exact hgrown

/-! ## The whole log -/

lemma within_foldl (participants : Participants) {kept messages : List RoomMessage}
    (hkept : kept.Sublist messages) (hunique : UniqueRequests messages) :
    ∀ {small large : TaskProjectionIndex}, small.Within large → large.Settled →
      (∀ message ∈ messages, ∀ requestId, IsTaskRequest requestId message →
        large.tasks.get? requestId = none) →
      (kept.foldl (projectMessage participants) small).Within
        (messages.foldl (projectMessage participants) large) := by
  -- A later request does not ask for what an earlier message has opened.
  have hlater : ∀ {message : RoomMessage} {rest : List RoomMessage} {large : TaskProjectionIndex},
      UniqueRequests (message :: rest) →
      (∀ m ∈ message :: rest, ∀ requestId, IsTaskRequest requestId m →
        large.tasks.get? requestId = none) →
      ∀ m ∈ rest, ∀ requestId, IsTaskRequest requestId m →
        (projectMessage participants large message).tasks.get? requestId = none := by
    intro message rest large hunique hnew m hm requestId hrequest
    by_contra hheld
    have hopened := isTaskRequest_of_get?_projectMessage
      (hnew m (List.mem_cons_of_mem _ hm) requestId hrequest) hheld
    exact (List.pairwise_cons.mp hunique).1 m hm requestId hopened hrequest
  induction hkept with
  | slnil =>
    intro small large hwithin _ _
    exact hwithin
  | cons message _ ih =>
    intro small large hwithin hsettled hnew
    exact ih (List.pairwise_cons.mp hunique).2
      (hwithin.trans (hsettled.within_projectMessage participants message))
      (hsettled.project participants message) (hlater hunique hnew)
  | cons_cons message _ ih =>
    intro small large hwithin hsettled hnew
    exact ih (List.pairwise_cons.mp hunique).2
      (hwithin.project hsettled participants (hnew message (by simp)))
      (hsettled.project participants message) (hlater hunique hnew)

end TaskProjectionIndex

lemma insertionSort_sublist_of_suffix {α : Type} (r : α → α → Prop) [DecidableRel r]
    {kept l : List α} (hsuffix : kept <:+ l) :
    (kept.insertionSort r).Sublist (l.insertionSort r) := by
  obtain ⟨forgotten, rfl⟩ := hsuffix
  induction forgotten with
  | nil => exact List.Sublist.refl _
  | cons a forgotten ih => exact ih.trans (List.sublist_orderedInsert a _)

lemma buildTaskProjectionIndex_within {retained messages : List RoomMessage}
    (hunique : UniqueRequests messages) (hsuffix : retained <:+ messages)
    (participants : Participants) : (buildTaskProjectionIndex retained participants).Within
      (buildTaskProjectionIndex messages participants) := by
  have hsorted : UniqueRequests
      (messages.insertionSort fun left right => left.sequence ≤ right.sequence) :=
    (List.perm_insertionSort _ messages).symm.pairwise hunique
      fun {_ _} h requestId hright hleft => h requestId hleft hright
  refine TaskProjectionIndex.within_foldl participants
    (insertionSort_sublist_of_suffix _ hsuffix) hsorted ?_ ?_ ?_
  · intro requestId task htask
    simp at htask
  · intro requestId task htask
    simp at htask
  · intro message _ requestId _
    exact KeyedMap.get?_empty requestId

/-! ## What an Agent sees -/

variable {small large : TaskProjectionIndex} {message : RoomMessage}

lemma projectTaskEvent_of_within (h : small.Within large)
    {participantId scopeId : String} {historical addressed : Bool}
    (hvisible : projectTaskEvent small message participantId historical =
      .visible scopeId addressed) :
    projectTaskEvent large message participantId historical = .visible scopeId addressed ∨
      isOwnPermissionTerminal message participantId = true := by
  unfold projectTaskEvent at hvisible ⊢
  cases hid : nonempty? (taskRequestIdFor message) with
  | none => simp [hid] at hvisible
  | some requestId =>
    simp only [hid] at hvisible ⊢
    cases htask : small.tasks.get? requestId with
    | none =>
      simp only [htask] at hvisible
      split at hvisible
      next hterminal => exact Or.inr hterminal
      next => cases hvisible
    | some task =>
      obtain ⟨task', htask', hwithin⟩ := h requestId task htask
      simp only [htask, htask'] at hvisible ⊢
      split at hvisible
      next hagent =>
        rw [if_pos (hwithin.visible message historical participantId hagent)]
        exact Or.inl hvisible
      next => cases hvisible

lemma taskAgentParticipates_of_within (h : small.Within large) {requestId participantId : String}
    (hagent : taskAgentParticipates small requestId participantId = true) :
    taskAgentParticipates large requestId participantId = true := by
  simp only [taskAgentParticipates, Option.any_eq_true, decide_eq_true_eq] at hagent ⊢
  obtain ⟨task, htask, hmem⟩ := hagent
  obtain ⟨task', htask', hwithin⟩ := h requestId task htask
  exact ⟨task', htask', hwithin.visible default true participantId hmem⟩

/-- The Task events of a log that an Agent receives. -/
def visibleTaskEvents (participants : Participants) (agentId : String) (historical : Bool)
    (messages : List RoomMessage) : List AgentEvent :=
  (messages.filter fun message => (nonempty? (taskRequestIdFor message)).isSome).filterMap
    fun message => toAgentEvent message agentId (buildTaskProjectionIndex messages participants)
      historical

/-- The attachments of Tasks that an Agent receives under a log. -/
def visibleTaskAttachments (participants : Participants) (agentId : String)
    (messages : List RoomMessage) (attachments : List RoomAttachment) : List RoomAttachment :=
  attachments.filter fun attachment => attachment.taskRequestId.isSome &&
    (toAttachmentEvent attachment agentId (buildTaskProjectionIndex messages participants)
      participants).isSome

lemma toAgentEvent_of_within (h : small.Within large)
    {agentId : String} {historical : Bool} {event : AgentEvent}
    (hscoped : (nonempty? (taskRequestIdFor message)).isSome = true)
    (hevent : toAgentEvent message agentId small historical = some event) :
    toAgentEvent message agentId large historical = some event ∨
      isOwnPermissionTerminal message agentId = true := by
  unfold toAgentEvent at hevent ⊢
  cases hprojection : projectTaskEvent small message agentId historical with
  | ordinary =>
    have : projectTaskEvent small message agentId historical ≠ .ordinary := by
      unfold projectTaskEvent
      obtain ⟨requestId, hid⟩ := Option.isSome_iff_exists.mp hscoped
      simp only [hid]
      split <;> split <;> simp
    exact absurd hprojection this
  | hidden => simp [hprojection] at hevent
  | visible scopeId addressed =>
    rcases projectTaskEvent_of_within h hprojection with hlarge | hterminal
    · rw [hprojection] at hevent
      rw [hlarge]
      exact Or.inl hevent
    · exact Or.inr hterminal

/-- A suffix of a log shows an Agent no Task event and no Task attachment that the log hides from
it, apart from the end of a permission that the Agent itself asked for. -/
theorem visibleTaskEvents_of_suffix {retained messages : List RoomMessage}
    (hunique : UniqueRequests messages) (hsuffix : retained <:+ messages)
    (participants : Participants) (agentId : String) :
    (∀ historical, ∀ event ∈ visibleTaskEvents participants agentId historical retained,
      event ∈ visibleTaskEvents participants agentId historical messages ∨
        ∃ message ∈ retained, isOwnPermissionTerminal message agentId = true ∧
          toAgentEvent message agentId (buildTaskProjectionIndex retained participants)
            historical = some event) ∧
    ∀ attachments, visibleTaskAttachments participants agentId retained attachments ⊆
      visibleTaskAttachments participants agentId messages attachments := by
  have hwithin := buildTaskProjectionIndex_within hunique hsuffix participants
  refine ⟨fun historical event hevent => ?_, fun attachments attachment hattachment => ?_⟩
  · simp only [visibleTaskEvents, List.mem_filterMap, List.mem_filter] at hevent ⊢
    obtain ⟨message, ⟨hmem, hscoped⟩, hevent⟩ := hevent
    rcases toAgentEvent_of_within hwithin hscoped hevent with hlarge | hterminal
    · exact Or.inl ⟨message, ⟨hsuffix.subset hmem, hscoped⟩, hlarge⟩
    · exact Or.inr ⟨message, hmem, hterminal, hevent⟩
  · simp only [visibleTaskAttachments, List.mem_filter, Bool.and_eq_true] at hattachment ⊢
    obtain ⟨hmem, hscoped, hreceived⟩ := hattachment
    refine ⟨hmem, hscoped, ?_⟩
    obtain ⟨requestId, hid⟩ := Option.isSome_iff_exists.mp hscoped
    have hagent : taskAgentParticipates (buildTaskProjectionIndex retained participants)
        requestId agentId = true := by
      by_contra hnot
      simp [toAttachmentEvent, hid, hnot] at hreceived
    simp [toAttachmentEvent, hid, taskAgentParticipates_of_within hwithin hagent]

lemma uniqueRequests_cons {rest : List RoomMessage}
    (hrest : ∀ m ∈ rest, m.collab = none) : UniqueRequests (message :: rest) := by
  have hnone : ∀ m ∈ rest, ∀ requestId, ¬ IsTaskRequest requestId m := by
    rintro m hm requestId ⟨collab, hcollab, -⟩
    rw [hrest m hm] at hcollab
    cases hcollab
  refine List.pairwise_cons.mpr ⟨fun m hm requestId _ => hnone m hm requestId, ?_⟩
  exact List.pairwise_of_forall_mem_list fun _ _ m hm requestId _ => hnone m hm requestId

/-- Once the request of the delegated Task is forgotten, its text shows nothing that the whole log
hides from the second Agent. -/
theorem visibleTaskEvents_of_suffix_delegation :
    (∀ historical, ∀ event ∈ visibleTaskEvents delegationRoster "agent-b" historical
        (delegationLog.drop 1),
      event ∈ visibleTaskEvents delegationRoster "agent-b" historical delegationLog ∨
        ∃ message ∈ delegationLog.drop 1, isOwnPermissionTerminal message "agent-b" = true ∧
          toAgentEvent message "agent-b"
            (buildTaskProjectionIndex (delegationLog.drop 1) delegationRoster) historical =
              some event) ∧
    ∀ attachments,
      visibleTaskAttachments delegationRoster "agent-b" (delegationLog.drop 1) attachments ⊆
        visibleTaskAttachments delegationRoster "agent-b" delegationLog attachments :=
  visibleTaskEvents_of_suffix (uniqueRequests_cons (by decide)) (List.drop_suffix 1 delegationLog)
    delegationRoster "agent-b"

end Free4Chat
