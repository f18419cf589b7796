import Free4Chat.Task.HumanPresence

/-!
# Task Views

The browser derives the Tasks that it shows from the retained messages too, but only from what the
messages say: it asks neither who is still there nor who sent a text.

* `buildTaskProjections`: the Tasks that the browser shows.
* `RetainedLog`: the logs that a Room may retain.
* `viewsAgree_iff`: when the browser and the Room agree on the Agents that work on the Tasks.
-/

namespace Free4Chat

open JsString (nonempty? nonempty?_eq_some_iff nonempty?_some_of_ne)

/-! ## The views of the browser -/

/-- The status that a Task is shown with. -/
inductive TaskStatus where
  | starting
  | working
  | completed
  | failed

/-- A Task that is shown. -/
structure TaskProjection where
  requestId : String
  title : String
  createdByParticipantId : String
  targetParticipantId : String
  participatingAgentIds : OrderedSet String
  status : TaskStatus
  messages : List RoomMessage

instance : Keyed TaskProjection String where
  key projection := projection.requestId

/-- The status after one more step of a collaboration. -/
def applyTaskLifecycle (current : TaskStatus) : CollabEventKind → TaskStatus
  | .accepted => .working
  | .completed => .completed
  | .declined | .failed => .failed
  | .request => current

/-- The endpoints of an envelope. -/
def CollabEvent.endpoints (collab : CollabEvent) : List String :=
  [collab.fromParticipantId, collab.targetParticipantId]

/-- The ids that a message names: endpoints, and the targets of Task text. -/
def namedIds (message : RoomMessage) : List String :=
  (message.collab.elim [] CollabEvent.endpoints) ++
    if (nonempty? message.taskRequestId).isSome then message.targets.getD [] else []

/-- The participants of a Task after one more message. -/
def addTaskParticipants (ids : OrderedSet String) (message : RoomMessage) : OrderedSet String :=
  ids.addAll (((namedIds message).map JsString.trim).filter (· ≠ ""))

/-- The Task that a request opens. -/
def openProjection (message : RoomMessage) (collab : CollabEvent) : TaskProjection where
  requestId := collab.requestId
  title := collab.summary.getD "Untitled task"
  createdByParticipantId := collab.fromParticipantId
  targetParticipantId := collab.targetParticipantId
  participatingAgentIds := OrderedSet.empty.addAll (collab.endpoints.filter (· ≠ ""))
  status := .starting
  messages := [message]

/-- A Task after one more of its messages. -/
def TaskProjection.observe (projection : TaskProjection) (message : RoomMessage) :
    TaskProjection :=
  { projection with
    messages := projection.messages ++ [message]
    participatingAgentIds := addTaskParticipants projection.participatingAgentIds message
    status := message.collab.elim projection.status fun collab =>
      applyTaskLifecycle projection.status collab.kind }

/-- The Tasks after one more message. -/
def viewMessage (projections : KeyedMap TaskProjection) (message : RoomMessage) :
    KeyedMap TaskProjection :=
  match message.collab.filter fun collab => collab.kind = .request with
  | some collab => projections.set (openProjection message collab)
  | none =>
    match (nonempty? (taskRequestIdFor message)).bind projections.get? with
    | some projection => projections.set (projection.observe message)
    | none => projections

/-- The Tasks that the browser shows. -/
def buildTaskProjections (messages : List RoomMessage) : List TaskProjection :=
  (messages.foldl viewMessage .empty).values

/-- Whether the browser shows an id among the participants of a Task. -/
def viewParticipates (messages : List RoomMessage) (requestId participantId : String) : Bool :=
  (buildTaskProjections messages).any fun projection =>
    projection.requestId = requestId && participantId ∈ projection.participatingAgentIds

/-! ## Logs -/

/-- The logs that a Room may retain. -/
structure RetainedLog (messages : List RoomMessage) : Prop extends RoomLog messages where
  uniqueRequests : messages.Pairwise fun earlier later => ∀ requestId,
    IsTaskRequest requestId earlier → ¬IsTaskRequest requestId later
  -- Who responds and to whom is taken from the request.
  responses : ∀ message ∈ messages, ∀ collab, message.collab = some collab →
    ∀ request ∈ messages, ∀ requested, request.collab = some requested →
      requested.kind = .request → requested.requestId = collab.requestId →
        collab.endpoints ⊆ requested.endpoints
  -- The ids are those of participants.
  named : ∀ message ∈ messages, ∀ id ∈ namedIds message, JsString.trim id = id ∧ id ≠ ""

/-- The Agents of the Room that the browser shows with a Task are those that the Room lets
participate. -/
def ViewsAgree (participants : Participants) (messages : List RoomMessage) : Prop :=
  ∀ requestId agentId,
    (hasKind participants .agent agentId = true ∧
      viewParticipates messages requestId agentId = true) ↔
    taskAgentParticipates (buildTaskProjectionIndex messages participants) requestId agentId = true

/-- Every Agent that Task text names is an endpoint, or is named by those who are still there. -/
def NamedByPresent (participants : Participants) (messages : List RoomMessage) : Prop :=
  ∀ (requestId : String) (i : ℕ) (message : RoomMessage) (agentId : String),
    messages[i]? = some message → IsTaskText requestId message →
    (∃ j < i, ∃ earlier, messages[j]? = some earlier ∧ IsTaskRequest requestId earlier) →
    agentId ∈ message.targets.getD [] → hasKind participants .agent agentId = true →
      ∃ j, TaskAdmitted participants messages requestId j agentId

/-! ## The fold of the browser -/

variable {messages : List RoomMessage} {participants : Participants} {requestId : String}

/-- What a message does to the participants that the browser shows. -/
def viewEvent (requestId : String) (message : RoomMessage) : GroupEvent String :=
  match message.collab.filter fun collab =>
      collab.kind = .request && collab.requestId = requestId with
  | some collab => .found (collab.endpoints.filter (· ≠ ""))
  | none =>
    if nonempty? (taskRequestIdFor message) = some requestId then
      .invite none (((namedIds message).map JsString.trim).filter (· ≠ ""))
    else .pass

/-- The participants of a Task that the browser shows. -/
def viewersOf (projections : KeyedMap TaskProjection) (requestId : String) :
    Option (OrderedSet String) :=
  (projections.get? requestId).map TaskProjection.participatingAgentIds

variable {message : RoomMessage}

lemma viewEvent_of_request {collab : CollabEvent}
    (hcollab : message.collab = some collab) (hkind : collab.kind = .request) :
    viewEvent collab.requestId message = .found (collab.endpoints.filter (· ≠ "")) := by
  simp [viewEvent, hcollab, Option.filter, hkind]

lemma viewEvent_of_not_request
    (hrequest : ¬IsTaskRequest requestId message) : viewEvent requestId message =
      if nonempty? (taskRequestIdFor message) = some requestId then
        .invite none (((namedIds message).map JsString.trim).filter (· ≠ ""))
      else .pass := by
  have hnone : message.collab.filter (fun collab =>
      collab.kind = .request && collab.requestId = requestId) = none := by
    rw [Option.filter_eq_none_iff]
    intro collab hcollab hmatch
    simp only [Bool.and_eq_true, decide_eq_true_eq] at hmatch
    exact hrequest ⟨collab, hcollab, hmatch⟩
  rw [viewEvent, hnone]

lemma step_pass (members : Option (OrderedSet String)) :
    GroupEvent.step members .pass = members := by
  cases members <;> rfl

/-- One message changes the participants of every Task as its event says, if it opens no Task
again. -/
lemma viewersOf_viewMessage (projections : KeyedMap TaskProjection)
    (hscope : message.collab.isSome → message.taskRequestId = none)
    (hnew : IsTaskRequest requestId message → viewersOf projections requestId = none) :
    viewersOf (viewMessage projections message) requestId =
      GroupEvent.step (viewersOf projections requestId) (viewEvent requestId message) := by
  rw [viewMessage]
  cases hfilter : message.collab.filter fun collab => collab.kind = .request with
  | some collab =>
    obtain ⟨hcollab, hkind⟩ := Option.filter_eq_some_iff.mp hfilter
    rw [decide_eq_true_eq] at hkind
    dsimp only
    by_cases hsame : collab.requestId = requestId
    · subst hsame
      rw [viewEvent_of_request hcollab hkind, hnew ⟨collab, hcollab, hkind, rfl⟩, viewersOf]
      have hself : (projections.set (openProjection message collab)).get? collab.requestId =
          some (openProjection message collab) := KeyedMap.get?_set_self projections _
      rw [hself]
      rfl
    · -- The message belongs to the other Task only.
      have hid : taskRequestIdFor message = some collab.requestId := by
        rw [taskRequestIdFor, hscope (by rw [hcollab]; rfl), hcollab]
        rfl
      have hrequest : ¬IsTaskRequest requestId message := by
        rintro ⟨other, hother, -, hsame'⟩
        rw [hcollab] at hother
        obtain rfl := Option.some.inj hother
        exact hsame hsame'
      have hother : nonempty? (taskRequestIdFor message) ≠ some requestId := by
        rw [hid]
        exact fun hno => hsame (Option.some.inj (nonempty?_eq_some_iff.mp hno).1)
      rw [viewEvent_of_not_request hrequest, if_neg hother, step_pass, viewersOf, viewersOf,
        KeyedMap.get?_set_of_ne projections hsame]
  | none =>
    have hrequest : ¬IsTaskRequest requestId message := by
      rintro ⟨collab, hcollab, hkind, -⟩
      rw [Option.filter_eq_none_iff] at hfilter
      exact hfilter collab hcollab (decide_eq_true hkind)
    rw [viewEvent_of_not_request hrequest]
    dsimp only
    cases hget : (nonempty? (taskRequestIdFor message)).bind projections.get? with
    | none =>
      dsimp only
      split_ifs with hid
      · rw [hid, Option.bind_some] at hget
        rw [viewersOf, hget]
        rfl
      · rw [step_pass]
    | some projection =>
      obtain ⟨id, hid, hfound⟩ := Option.bind_eq_some_iff.mp hget
      have hkey : projection.requestId = id := KeyedMap.key_of_get? hfound
      dsimp only
      rw [hid]
      by_cases hsame : id = requestId
      · subst hsame hkey
        have hself : (projections.set (projection.observe message)).get? projection.requestId =
            some (projection.observe message) := KeyedMap.get?_set_self projections _
        rw [if_pos rfl, viewersOf, viewersOf, hself, hfound]
        rfl
      · have hne : Keyed.key (projection.observe message) ≠ requestId :=
          fun hno => hsame (hkey ▸ hno)
        rw [if_neg fun hno => hsame (Option.some.inj hno), step_pass, viewersOf, viewersOf,
          KeyedMap.get?_set_of_ne projections hne]

lemma viewersOf_foldl (h : RetainedLog messages) (requestId : String) :
    viewersOf (messages.foldl viewMessage .empty) requestId =
      GroupEvent.membersAfter (messages.map (viewEvent requestId)) := by
  have hscope := h.singleScope
  have hunique := h.uniqueRequests
  clear h
  induction messages using List.reverseRecOn with
  | nil => rfl
  | append_singleton messages message ih =>
    obtain ⟨hearlier, -, hlast⟩ := List.pairwise_append.mp hunique
    have hviewers := ih (fun m hm => hscope m (List.mem_append_left _ hm)) hearlier
    rw [List.foldl_append, List.foldl_cons, List.foldl_nil, List.map_append, List.map_singleton,
      GroupEvent.membersAfter_concat, ← hviewers]
    refine viewersOf_viewMessage _ (hscope message (List.mem_append_right _
      List.mem_cons_self)) fun hrequest => ?_
    -- No earlier message has opened the Task.
    rw [hviewers, ← Option.not_isSome_iff_eq_none]
    intro hsome
    have hfounded := (GroupEvent.isSome_membersAfter_take
      (messages.map (viewEvent requestId)) messages.length).mp (by
        rw [List.take_of_length_le (by rw [List.length_map])]
        exact hsome)
    obtain ⟨j, -, founders, hfound⟩ := hfounded
    rw [List.getElem?_map] at hfound
    obtain ⟨earlier, hat, hevent⟩ := Option.map_eq_some_iff.mp hfound
    by_cases hopens : IsTaskRequest requestId earlier
    · exact hlast earlier (List.mem_of_getElem? hat) message List.mem_cons_self requestId hopens
        hrequest
    · rw [viewEvent_of_not_request hopens] at hevent
      split_ifs at hevent

/-! ## Agreement -/

lemma viewEvent_eq_found_iff {founders : List String} :
    viewEvent requestId message = .found founders ↔ ∃ collab, message.collab = some collab ∧
      collab.kind = .request ∧ collab.requestId = requestId ∧
        founders = collab.endpoints.filter (· ≠ "") := by
  constructor
  · intro hfound
    by_cases hrequest : IsTaskRequest requestId message
    · obtain ⟨collab, hcollab, hkind, rfl⟩ := hrequest
      rw [viewEvent_of_request hcollab hkind] at hfound
      exact ⟨collab, hcollab, hkind, rfl, (GroupEvent.found.inj hfound).symm⟩
    · rw [viewEvent_of_not_request hrequest] at hfound
      split_ifs at hfound
  · rintro ⟨collab, hcollab, hkind, rfl, rfl⟩
    exact viewEvent_of_request hcollab hkind

lemma viewEvent_eq_invite_iff {sponsor : Option String}
    {guests : List String} : viewEvent requestId message = .invite sponsor guests ↔
      ¬IsTaskRequest requestId message ∧ IsTaskMessage requestId message ∧ sponsor = none ∧
        guests = ((namedIds message).map JsString.trim).filter (· ≠ "") := by
  by_cases hrequest : IsTaskRequest requestId message
  · obtain ⟨collab, hcollab, hkind, rfl⟩ := hrequest
    rw [viewEvent_of_request hcollab hkind]
    exact ⟨fun hno => (by cases hno), fun hno => absurd ⟨collab, hcollab, hkind, rfl⟩ hno.1⟩
  · rw [viewEvent_of_not_request hrequest, IsTaskMessage]
    split_ifs with hid
    · constructor
      · intro hinvite
        obtain ⟨hsponsor, hguests⟩ := GroupEvent.invite.inj hinvite
        exact ⟨hrequest, hid, hsponsor.symm, hguests.symm⟩
      · rintro ⟨-, -, rfl, rfl⟩
        rfl
    · exact ⟨fun hno => (by cases hno), fun hno => absurd hno.2.1 hid⟩

variable {agentId : String}

lemma viewParticipates_iff (h : RetainedLog messages) :
    viewParticipates messages requestId agentId = true ↔
      ∃ i, GroupEvent.Admitted (messages.map (viewEvent requestId)) i agentId := by
  have hmember : viewParticipates messages requestId agentId = true ↔
      GroupEvent.IsMember (viewersOf (messages.foldl viewMessage .empty) requestId) agentId := by
    rw [viewParticipates, buildTaskProjections, List.any_eq_true]
    constructor
    · rintro ⟨projection, hmem, hsame⟩
      rw [Bool.and_eq_true, decide_eq_true_eq, decide_eq_true_eq] at hsame
      have hget := KeyedMap.get?_eq_some_iff.mpr ⟨hmem, hsame.1⟩
      exact ⟨_, by rw [viewersOf, hget]; rfl, hsame.2⟩
    · rintro ⟨ids, hids, hin⟩
      obtain ⟨projection, hget, rfl⟩ := Option.map_eq_some_iff.mp hids
      refine ⟨projection, KeyedMap.mem_of_get? hget, ?_⟩
      rw [Bool.and_eq_true, decide_eq_true_eq, decide_eq_true_eq]
      exact ⟨KeyedMap.key_of_get? hget, hin⟩
  have htake := GroupEvent.isMember_membersAfter_take_iff (messages.map (viewEvent requestId))
    messages.length agentId
  rw [List.take_of_length_le (by rw [List.length_map])] at htake
  rw [hmember, viewersOf_foldl h, htake]
  constructor
  · rintro ⟨i, -, hadmitted⟩
    exact ⟨i, hadmitted⟩
  · rintro ⟨i, hadmitted⟩
    obtain ⟨event, hat, -⟩ := (GroupEvent.admitted_iff _ i agentId).mp hadmitted
    have hlt := (List.getElem?_eq_some_iff.mp hat).1
    rw [List.length_map] at hlt
    exact ⟨i, hlt, hadmitted⟩

lemma RetainedLog.endpoint (h : RetainedLog messages) {i : ℕ} {message : RoomMessage}
    {collab : CollabEvent} {agentId : String} (hat : messages[i]? = some message)
    (hcollab : message.collab = some collab) (hkind : collab.kind = .request)
    (hendpoint : agentId ∈ collab.endpoints) (hagent : hasKind participants .agent agentId = true) :
    TaskAdmitted participants messages collab.requestId i agentId := by
  refine .endpoint hat hcollab hkind rfl (fun j hj earlier hearlier hopens => ?_) ?_ hagent
  · obtain ⟨hlt, rfl⟩ := List.getElem?_eq_some_iff.mp hat
    obtain ⟨hlt', rfl⟩ := List.getElem?_eq_some_iff.mp hearlier
    exact List.pairwise_iff_getElem.mp h.uniqueRequests j i hlt' hlt hj _ hopens
      ⟨collab, hcollab, hkind, rfl⟩
  · rw [CollabEvent.endpoints, List.mem_cons, List.mem_singleton] at hendpoint
    exact hendpoint

lemma RetainedLog.mem_named_iff (h : RetainedLog messages)
    (hmem : message ∈ messages) {id : String} :
    id ∈ ((namedIds message).map JsString.trim).filter (· ≠ "") ↔ id ∈ namedIds message := by
  rw [List.mem_filter, List.mem_map, decide_eq_true_eq]
  constructor
  · rintro ⟨⟨named, hnamed, rfl⟩, -⟩
    rw [(h.named message hmem named hnamed).1]
    exact hnamed
  · intro hnamed
    exact ⟨⟨id, hnamed, (h.named message hmem id hnamed).1⟩, (h.named message hmem id hnamed).2⟩

lemma getElem?_viewEvent {j : ℕ} (hat : messages[j]? = some message) :
    (messages.map (viewEvent requestId))[j]? = some (viewEvent requestId message) := by
  rw [List.getElem?_map, hat]
  rfl

lemma foundedBefore_of_request {n : ℕ}
    (hopen : ∃ j < n, ∃ earlier, messages[j]? = some earlier ∧ IsTaskRequest requestId earlier) :
    GroupEvent.FoundedBefore (messages.map (viewEvent requestId)) n := by
  obtain ⟨j, hj, earlier, hearlier, collab, hcollab, hkind, hid⟩ := hopen
  exact ⟨j, hj, _, (getElem?_viewEvent hearlier).trans (congrArg some
    (viewEvent_eq_found_iff.mpr ⟨collab, hcollab, hkind, hid, rfl⟩))⟩

lemma RetainedLog.admitted_of_text (h : RetainedLog messages) {j : ℕ}
    {id : String} (hat : messages[j]? = some message) (htext : IsTaskText requestId message)
    (hfounded : GroupEvent.FoundedBefore (messages.map (viewEvent requestId)) j)
    (htarget : id ∈ message.targets.getD []) :
    GroupEvent.Admitted (messages.map (viewEvent requestId)) j id := by
  have hmem := List.mem_of_getElem? hat
  have hcollab := h.toRoomLog.collab_of_isTaskText hmem htext
  have hrequest : ¬IsTaskRequest requestId message := by
    rintro ⟨collab, hsome, -⟩
    rw [hcollab] at hsome
    cases hsome
  have hid : IsTaskMessage requestId message := by
    obtain ⟨hsome, hne⟩ := nonempty?_eq_some_iff.mp htext
    rw [IsTaskMessage, taskRequestIdFor, hsome]
    exact nonempty?_some_of_ne hne
  refine .guest ((getElem?_viewEvent hat).trans (congrArg some (viewEvent_eq_invite_iff.mpr
    ⟨hrequest, hid, rfl, rfl⟩))) hfounded ((h.mem_named_iff hmem).mpr ?_)
  rw [namedIds, htext]
  exact List.mem_append_right _ htarget

lemma admitted_of_taskAdmitted (h : RetainedLog messages) {i : ℕ}
    (hadmitted : TaskAdmitted participants messages requestId i agentId) :
    GroupEvent.Admitted (messages.map (viewEvent requestId)) i agentId := by
  induction hadmitted with
  | @endpoint i message collab agentId hat hcollab hkind hid hfirst hendpoint hagent =>
    have hmem := List.mem_of_getElem? hat
    have hin : agentId ∈ collab.endpoints := by
      rw [CollabEvent.endpoints, List.mem_cons, List.mem_singleton]
      exact hendpoint
    refine .founder ((getElem?_viewEvent hat).trans (congrArg some (viewEvent_eq_found_iff.mpr
      ⟨collab, hcollab, hkind, hid, rfl⟩))) ?_ (List.mem_filter.mpr ⟨hin, decide_eq_true ?_⟩)
    · rintro ⟨j, hj, founders, hfound⟩
      rw [List.getElem?_map] at hfound
      obtain ⟨earlier, hearlier, hevent⟩ := Option.map_eq_some_iff.mp hfound
      obtain ⟨opened, hopened, hrequest, hsame, -⟩ := viewEvent_eq_found_iff.mp hevent
      exact hfirst j hj earlier hearlier ⟨opened, hopened, hrequest, hsame⟩
    · refine (h.named message hmem agentId ?_).2
      rw [namedIds, hcollab]
      exact List.mem_append_left _ hin
  | @byHuman i message agentId hat htext hopen hsender htarget hagent =>
    exact h.admitted_of_text hat htext (foundedBefore_of_request hopen) htarget
  | @byAgent i j message agentId hat htext hsender hlt htarget hagent ih =>
    exact h.admitted_of_text hat htext (ih.foundedBefore.mono hlt) htarget

lemma taskAdmitted_of_admitted (h : RetainedLog messages)
    (hpresent : NamedByPresent participants messages) {i : ℕ}
    (hagent : hasKind participants .agent agentId = true)
    (hadmitted : GroupEvent.Admitted (messages.map (viewEvent requestId)) i agentId) :
    ∃ j, TaskAdmitted participants messages requestId j agentId := by
  cases hadmitted with
  | founder hat hfirst ha =>
    rw [List.getElem?_map] at hat
    obtain ⟨message, hmessage, hevent⟩ := Option.map_eq_some_iff.mp hat
    obtain ⟨collab, hcollab, hkind, rfl, rfl⟩ := viewEvent_eq_found_iff.mp hevent
    exact ⟨i, h.endpoint hmessage hcollab hkind (List.mem_filter.mp ha).1 hagent⟩
  | guest hat hfounded ha =>
    rw [List.getElem?_map] at hat
    obtain ⟨message, hmessage, hevent⟩ := Option.map_eq_some_iff.mp hat
    obtain ⟨-, hid, -, rfl⟩ := viewEvent_eq_invite_iff.mp hevent
    have hmem := List.mem_of_getElem? hmessage
    obtain ⟨k, hk, founders, hfound⟩ := hfounded
    rw [List.getElem?_map] at hfound
    obtain ⟨earlier, hearlier, hopens⟩ := Option.map_eq_some_iff.mp hfound
    obtain ⟨requested, hrequested, hkind, hsame, -⟩ := viewEvent_eq_found_iff.mp hopens
    have hnamed := (h.mem_named_iff hmem).mp ha
    rw [namedIds] at hnamed
    rcases List.mem_append.mp hnamed with hcollab | htext
    · -- A response names the endpoints of the request.
      cases hresponse : message.collab with
      | none =>
        rw [hresponse] at hcollab
        cases hcollab
      | some collab =>
        rw [hresponse] at hcollab
        rw [IsTaskMessage, taskRequestIdFor_of_collab (h.singleScope message hmem) hresponse] at hid
        have hcorrelated := Option.some.inj (nonempty?_eq_some_iff.mp hid).1
        have hin := h.responses message hmem collab hresponse earlier
          (List.mem_of_getElem? hearlier) requested hrequested hkind
          (hsame.trans hcorrelated.symm) hcollab
        subst hsame
        exact ⟨k, h.endpoint hearlier hrequested hkind hin hagent⟩
    · split_ifs at htext with hsome
      · obtain ⟨named, hnonempty⟩ := Option.isSome_iff_exists.mp hsome
        obtain ⟨htask, hne⟩ := nonempty?_eq_some_iff.mp hnonempty
        refine hpresent requestId i message agentId hmessage ?_
          ⟨k, hk, earlier, hearlier, requested, hrequested, hkind, hsame⟩ htext hagent
        rw [IsTaskMessage, taskRequestIdFor, htask] at hid
        rw [IsTaskText, htask]
        exact hid
      · cases htext
  | sponsored hat hsponsor hlt ha =>
    rw [List.getElem?_map] at hat
    obtain ⟨message, -, hevent⟩ := Option.map_eq_some_iff.mp hat
    cases (viewEvent_eq_invite_iff.mp hevent).2.2.1

/-- The browser and the Room agree if and only if every Agent that Task text names is an endpoint,
or is named by those who are still there. -/
theorem viewsAgree_iff (h : RetainedLog messages) (participants : Participants) :
    ViewsAgree participants messages ↔ NamedByPresent participants messages := by
  constructor
  · intro hagree requestId i message agentId hat htext hopen htarget hagent
    -- The text alone makes the browser show the Agent.
    have hshown : viewParticipates messages requestId agentId = true :=
      (viewParticipates_iff h).mpr
        ⟨i, h.admitted_of_text hat htext (foundedBefore_of_request hopen) htarget⟩
    exact (taskAgentParticipates_iff h.toRoomLog).mp ((hagree requestId agentId).mp
      ⟨hagent, hshown⟩)
  · intro hpresent requestId agentId
    rw [viewParticipates_iff h, taskAgentParticipates_iff h.toRoomLog]
    constructor
    · rintro ⟨hagent, i, hadmitted⟩
      exact taskAdmitted_of_admitted h hpresent hagent hadmitted
    · rintro ⟨i, hadmitted⟩
      exact ⟨hadmitted.isAgent, i, admitted_of_taskAdmitted h hadmitted⟩

lemma retainedLog_delegationLog : RetainedLog delegationLog where
  toRoomLog := roomLog_delegationLog
  uniqueRequests := by
    refine List.pairwise_cons.mpr ⟨?_, List.pairwise_cons.mpr ⟨?_, List.pairwise_singleton _ _⟩⟩
    all_goals
      rintro later hmem requestId - hrequest
      have hnone : later.collab = none := by
        clear hrequest
        revert later
        decide
      obtain ⟨collab, hcollab, -⟩ := hrequest
      rw [hnone] at hcollab
      cases hcollab
  responses := by decide
  named := by decide

/-- While the Human is there that brought the second Agent into the delegated Task, the browser and
the Room agree. -/
theorem viewsAgree_delegation : ViewsAgree delegationRoster delegationLog := by
  refine (viewsAgree_iff retainedLog_delegationLog delegationRoster).mpr ?_
  intro requestId i message agentId hat htext _ htarget _
  have honly : ∀ m ∈ delegationLog, ∀ id ∈ m.targets.getD [], m.taskRequestId.isSome = true →
      m.taskRequestId = some "task-T" ∧ id = "agent-b" := by decide
  have htask := (nonempty?_eq_some_iff.mp htext).1
  obtain ⟨hid, rfl⟩ := honly message (List.mem_of_getElem? hat) agentId htarget (by rw [htask]; rfl)
  rw [htask] at hid
  obtain rfl := Option.some.inj hid
  exact (taskAgentParticipates_iff roomLog_delegationLog).mp (by decide)

/-- When it has left, the browser still shows the Agent, and the Room does not let it participate. -/
theorem not_viewsAgree_departedHuman :
    ¬∀ participants messages, RetainedLog messages → ViewsAgree participants messages := by
  intro hall
  have hagree := (hall (removeHumans delegationRoster fun id => id = "human") delegationLog
    retainedLog_delegationLog "task-T" "agent-b").mp ⟨by decide, by decide⟩
  revert hagree
  decide

end Free4Chat
