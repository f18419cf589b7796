import Free4Chat.Session.Machine

/-!
# Waiting for Events

An Agent without a resident socket polls for events. Where the deployment allows it, a poll that
finds none is held open for a while, which keeps the Durable Object in memory. The Room stores when
the last held poll ends at the latest; for some time after that no poll is held. The clock does not
go back, a timer fires when it is due, and what an operation awaits of storage takes no time. An
upload awaits its body, and then saves the Room that it loaded before.

* `agentEvents`: the events that an Agent has not seen.
* `legacyLongPollDecision` and `AgentWaitSession.waitForAgent`: a poll.
* `AgentWaitSession.resolveAgentWaiters`: answers the polls for which events arrived.
* `DutyCycle`: the held polls are bounded and apart.
* `dutyCycle_of_uploadsCurrent`: they are, unless an upload takes back the stored time.
-/

namespace Free4Chat

def MCP_LEGACY_LONGPOLL_MAX_MS : ℕ := 5 * 1000
def MCP_LEGACY_LONGPOLL_MIN_INTERVAL_MS : ℕ := 15 * 1000
def MCP_LONGPOLL_RETRY_HINT_MS : ℕ := 15 * 1000
def MCP_WAIT_MIN_INTERVAL_MS : ℕ := 5 * 1000

/-! ## Events -/

/-- Whether a permission message is for an Agent. Other messages are. -/
def isPermissionVisibleToAgent (message : RoomMessage) (participantId : String) : Bool :=
  (permissionEventForMessage message).all fun event => event.agentParticipantId = participantId

/-- The first sequence of the contiguous sequences that end at one, given those before it, newest
first. -/
def contiguousFloor (floor : ℕ) : List ℕ → ℕ
  | [] => floor
  | sequence :: sequences =>
    if sequence + 1 ≠ floor then floor else contiguousFloor sequence sequences

/-- The sequence from which on every event is retained. -/
def retainedEventCoverageFloor (sequences : List ℕ) : ℕ :=
  match sequences.reverse with
  | [] => 0
  | newest :: sequences => contiguousFloor newest sequences

/-- A retained message or attachment, as one Agent sees it. -/
structure AgentEventEntry where
  sequence : ℕ
  event : Option AgentEvent
  peerId : String
  visible : Bool
  deliverOwn : Bool

/-- The events that an Agent has not seen. -/
structure AgentEventsResult where
  events : List AgentEvent
  cursor : ℕ
  truncated : Bool

namespace RoomRecord

/-- The retained messages and attachments in order, as one Agent sees them. -/
def agentEventEntries (room : RoomRecord) (participantId : String) : List AgentEventEntry :=
  let taskProjection := buildTaskProjectionIndex room.messages room.participants
  let messages := room.messages.map fun message =>
    { sequence := message.sequence
      event := toAgentEvent message participantId taskProjection false
      peerId := message.peerId
      visible := isPermissionVisibleToAgent message participantId
      deliverOwn := (permissionEventForMessage message).any fun event =>
        event.kind = .expired : AgentEventEntry }
  let attachments := room.attachments.map fun attachment =>
    let event := toAttachmentEvent attachment participantId taskProjection room.participants
    { sequence := attachment.sequence
      event
      peerId := attachment.senderId
      visible := event.isSome
      deliverOwn := false : AgentEventEntry }
  (messages ++ attachments).insertionSort fun left right => left.sequence ≤ right.sequence

/-- The events after a cursor. -/
def agentEvents (room : RoomRecord) (participantId : String) (cursor : ℕ) : AgentEventsResult :=
  let serverCursor := room.nextMessageSequence
  let clampedCursor := min cursor serverCursor
  let entries := room.agentEventEntries participantId
  let coverageFloor := retainedEventCoverageFloor (entries.map (·.sequence))
  let truncated := 0 < coverageFloor && clampedCursor + 1 < coverageFloor
  let effectiveCursor := if truncated then coverageFloor - 1 else clampedCursor
  { events := (entries.filter fun entry =>
      effectiveCursor < entry.sequence && (entry.peerId ≠ participantId || entry.deliverOwn) &&
        entry.visible).filterMap (·.event)
    cursor := serverCursor
    truncated }

end RoomRecord

/-! ## Polls -/

/-- How a poll is answered that found no events. -/
inductive LegacyLongPollDecision where
  | immediate (retryAfterMs : Option ℕ)
  | coolingDown (retryAfterMs : ℕ)
  | held (waitMs : ℕ)
deriving DecidableEq, Repr

/-- Decides whether a poll is held. -/
def legacyLongPollDecision (longPollEnabled : Bool) (lastHeldWaitEndedAt : Option ℕ)
    (timeoutSeconds : ℤ) (now : ℕ) : LegacyLongPollDecision :=
  let cooldownUntil := lastHeldWaitEndedAt.getD 0 + MCP_LEGACY_LONGPOLL_MIN_INTERVAL_MS
  let waitMs := min (timeoutSeconds.toNat * 1000) MCP_LEGACY_LONGPOLL_MAX_MS
  if !longPollEnabled then .immediate (some MCP_LONGPOLL_RETRY_HINT_MS)
  else if now < cooldownUntil then .coolingDown (cooldownUntil - now)
  else if waitMs = 0 then .immediate (some MCP_LONGPOLL_RETRY_HINT_MS)
  else .held waitMs

/-- A poll that is held, and when its timer fires. -/
structure AgentWaiter where
  participantId : String
  cursor : ℕ
  firesAt : ℕ
deriving DecidableEq, Repr

instance : Keyed AgentWaiter String where
  key := AgentWaiter.participantId

/-- A poll that is or was held: when it began, and when it was answered. -/
structure HeldWindow where
  participantId : String
  openedAt : ℕ
  closedAt : Option ℕ := none
deriving DecidableEq, Repr

/-- The window after its poll was answered. -/
def HeldWindow.close (window : HeldWindow) (now : ℕ) : HeldWindow :=
  { window with closedAt := window.closedAt.or (some now) }

/-- An upload whose body is being read. -/
inductive RoomUpload where
  | surface (upload : SurfaceUpload)
  | attachment (upload : AttachmentUpload)

/-- The record that an upload saves once its body was read, if it does. -/
def RoomUpload.save (upload : RoomUpload) (env : RoomEnv) (id : String) (byteLength : ℕ) :
    Option RoomRecord :=
  match upload with
  | .surface upload => (upload.finish env id byteLength).toOption.bind (RoomRecord.saveRoom env)
  | .attachment upload => (upload.finish env id byteLength).toOption.bind (RoomRecord.saveRoom env)

/-- An upload, with the end of the last held poll in the Room that it loaded. -/
structure SuspendedUpload where
  upload : RoomUpload
  lastHeldWaitEndedAt : Option ℕ

/-- A Room session with its polls. -/
structure AgentWaitSession where
  session : RoomSession := {}
  -- A field of the stored Room.
  lastHeldWaitEndedAt : Option ℕ := none
  -- Memory of the running instance.
  agentWaiters : KeyedMap AgentWaiter := .empty
  agentWaitCadence : KeyedMap (String × ℕ) := .empty
  uploads : List SuspendedUpload := []
  -- Specification fields: the clock, and the polls held in the Room, oldest first.
  clock : ℕ := 0
  windows : List HeldWindow := []

namespace AgentWaitSession

variable (env : RoomEnv)

/-- Answers some of the polls that are held. -/
def release (s : AgentWaitSession) (answered : AgentWaiter → Bool) : AgentWaitSession :=
  { s with
    agentWaiters := s.agentWaiters.filter fun waiter => !answered waiter
    windows := s.windows.map fun window =>
      if (s.agentWaiters.get? window.participantId).any answered then window.close env.now
      else window }

/-- The session after the Room was loaded or stored. A Room that expired answers its polls, and
nothing of it is left. -/
def withSession (s : AgentWaitSession) (session : RoomSession) : AgentWaitSession :=
  match session.stored with
  | some _ => { s with session }
  | none =>
    { s with
      session
      lastHeldWaitEndedAt := none
      agentWaiters := .empty
      windows := [] }

/-- Answers the polls for which events arrived. -/
def resolveAgentWaiters (s : AgentWaitSession) : AgentWaitSession :=
  match s.session.stored with
  | none => s
  | some room =>
    s.release env fun waiter =>
      let result := room.agentEvents waiter.participantId waiter.cursor
      !result.events.isEmpty || result.truncated

/-- Records when an Agent polled. Old entries are swept when there are many. -/
def recordWait (s : AgentWaitSession) (participantId : String) : AgentWaitSession :=
  let cadence := s.agentWaitCadence.set (participantId, env.now)
  { s with
    agentWaitCadence :=
      if MAX_CLIENT_MESSAGE_WINDOWS < cadence.size then
        cadence.filter fun entry => env.now < entry.2 + MCP_WAIT_MIN_INTERVAL_MS
      else cadence }

/-- How a poll of an Agent is answered. -/
def waitDecision (s : AgentWaitSession) (room : RoomRecord) (longPollEnabled : Bool)
    (participantId : String) (cursor : ℕ) (timeoutSeconds : ℤ) : LegacyLongPollDecision :=
  let result := room.agentEvents participantId cursor
  if room.nextMessageSequence < cursor || !result.events.isEmpty || cursor < result.cursor ||
      result.truncated then
    .immediate none
  else legacyLongPollDecision longPollEnabled s.lastHeldWaitEndedAt timeoutSeconds env.now

/-- The session after a poll was admitted and its Room saved. -/
def admitWait (s : AgentWaitSession) (saved : RoomRecord) (alarmFails : Bool)
    (participantId : String) (cursor : ℕ) : LegacyLongPollDecision → AgentWaitSession
  | .held waitMs =>
    let stored := { s with
      session := { s.session with stored := some saved }
      lastHeldWaitEndedAt := some (env.now + waitMs) }
    -- The poll fails when the alarm cannot be scheduled.
    if alarmFails then stored
    else
      { stored with
        agentWaiters := s.agentWaiters.set
          { participantId, cursor, firesAt := env.now + waitMs }
        windows := s.windows ++ [{ participantId, openedAt := env.now }] }
  | _ => { s with session := { s.session with stored := some saved } }

/-- A poll of an Agent. -/
def waitForAgent (s : AgentWaitSession) (longPollEnabled alarmFails : Bool)
    (participantId token : String) (cursor : ℕ) (timeoutSeconds : ℤ) : AgentWaitSession :=
  match s.session.activeRoom env with
  | (none, session) => s.withSession session
  | (some room, session) =>
    let s := s.withSession session
    match room.findAgent participantId token with
    | .error _ => s
    | .ok participant =>
      if s.agentWaiters.contains participant.id then s
      else if env.now < ((s.agentWaitCadence.get? participant.id).map (·.2)).getD 0 +
          MCP_WAIT_MIN_INTERVAL_MS then s
      else
        let s := s.recordWait env participant.id
        let room := room.touch env participant.id
        let decision := s.waitDecision env room longPollEnabled participant.id cursor
          timeoutSeconds
        match room.saveRoom env with
        | none => s
        | some saved => s.admitWait env saved alarmFails participant.id cursor decision

/-- Begins to read the body of an upload, if the upload is admitted. -/
def beginUpload (s : AgentWaitSession) (start : RoomRecord → Option RoomUpload) :
    AgentWaitSession :=
  match s.session.activeRoom env with
  | (none, session) => s.withSession session
  | (some room, session) =>
    let s := s.withSession session
    match start room with
    | none => s
    | some upload =>
      { s with
        uploads := s.uploads ++
          [{ upload, lastHeldWaitEndedAt := s.lastHeldWaitEndedAt }] }

/-- The body of an upload was read. What it saves is the Room that it loaded, with the upload. -/
def finishUpload (s : AgentWaitSession) (index : ℕ) (id : String) (byteLength : ℕ) :
    AgentWaitSession :=
  match s.uploads[index]? with
  | none => s
  | some suspended =>
    let s := { s with uploads := s.uploads.eraseIdx index }
    match suspended.upload.save env id byteLength with
    | none => s
    | some saved =>
      { s with
        session := { s.session with stored := some saved }
        lastHeldWaitEndedAt := suspended.lastHeldWaitEndedAt }

end AgentWaitSession

/-! ## Runs -/

/-- What happens to a Room session with its polls. -/
inductive AgentWaitOp where
  | wait (longPollEnabled alarmFails : Bool) (participantId token : String) (cursor : ℕ)
    (timeoutSeconds : ℤ)
  -- The timer of a poll fires.
  | timer (participantId : String)
  -- Any other operation. It may answer the polls of participants that left, and those for which
  -- events arrived.
  | operation (op : SessionOp) (departed : List String) (wakes : Bool)
  | beginSurfaceUpload (participantId token mimeType : String) (declaredSize : ℕ)
  | beginAttachmentUpload (participantId token : String) (headers : AttachmentHeaders)
  | finishUpload (index : ℕ) (id : String) (byteLength : ℕ) (wakes : Bool)
  -- The instance is evicted from memory, with the polls that it holds.
  | restart

namespace AgentWaitSession

/-- The session after an operation, except for the clock. -/
def next (env : RoomEnv) (s : AgentWaitSession) : AgentWaitOp → AgentWaitSession
  | .wait longPollEnabled alarmFails participantId token cursor timeoutSeconds =>
    s.waitForAgent env longPollEnabled alarmFails participantId token cursor timeoutSeconds
  | .timer participantId =>
    let s := s.release env fun waiter => waiter.participantId = participantId
    s.withSession (s.session.activeRoom env).2
  | .operation op departed wakes =>
    let s := (s.withSession (s.session.step env op)).release env fun waiter =>
      waiter.participantId ∈ departed
    if wakes then s.resolveAgentWaiters env else s
  | .beginSurfaceUpload participantId token mimeType declaredSize =>
    s.beginUpload env fun room =>
      (room.surfaceUploadStart participantId token mimeType declaredSize).toOption.map .surface
  | .beginAttachmentUpload participantId token headers =>
    s.beginUpload env fun room =>
      (room.attachmentUploadStart participantId token headers).toOption.map .attachment
  | .finishUpload index id byteLength wakes =>
    let s := s.finishUpload env index id byteLength
    if wakes then s.resolveAgentWaiters env else s
  | .restart =>
    let s := s.release env fun _ => true
    { s with
      session := s.session.step env .restart
      agentWaitCadence := .empty
      uploads := [] }

/-- The session after an operation. -/
def step (s : AgentWaitSession) (label : RoomEnv × AgentWaitOp) : AgentWaitSession :=
  { s.next label.1 label.2 with clock := label.1.now }

/-- Whether an operation may happen: the clock does not go back, no timer is overdue, and a timer
fires when it is due. -/
def enabled (s : AgentWaitSession) (label : RoomEnv × AgentWaitOp) : Bool :=
  s.clock ≤ label.1.now && (s.agentWaiters.values.all fun waiter => label.1.now ≤ waiter.firesAt) &&
    match label.2 with
    | .timer participantId =>
      (s.agentWaiters.get? participantId).any fun waiter => waiter.firesAt = label.1.now
    | _ => true

/-- A finishing upload does not take back the end of the last held poll. -/
def uploadsCurrent (s : AgentWaitSession) (label : RoomEnv × AgentWaitOp) : Bool :=
  match label.2 with
  | .finishUpload index .. =>
    s.uploads[index]?.all fun suspended => suspended.lastHeldWaitEndedAt = s.lastHeldWaitEndedAt
  | _ => true

end AgentWaitSession

/-- The runs of a Room session with its polls. -/
def agentWaitSystem : TransitionSystem AgentWaitSession (RoomEnv × AgentWaitOp) where
  init s := s = {}
  step s label s' := s.enabled label = true ∧ s' = s.step label

/-- Every held poll is answered within the greatest hold, and each was answered some time before
the next one began. -/
structure DutyCycle (s : AgentWaitSession) : Prop where
  bounded : ∀ window ∈ s.windows,
    window.closedAt.getD s.clock ≤ window.openedAt + MCP_LEGACY_LONGPOLL_MAX_MS
  spaced : s.windows.Pairwise fun earlier later =>
    ∃ closedAt, earlier.closedAt = some closedAt ∧
      closedAt + MCP_LEGACY_LONGPOLL_MIN_INTERVAL_MS ≤ later.openedAt

/-! ## The invariant -/

/-- A window that is open belongs to a poll that is held, and a window is over before the stored
time. -/
def HeldWindow.Reserved (window : HeldWindow) (waiters : KeyedMap AgentWaiter)
    (lastHeldWaitEndedAt : Option ℕ) : Prop :=
  ∃ reservedUntil, lastHeldWaitEndedAt = some reservedUntil ∧
    match window.closedAt with
    | some closedAt =>
      closedAt ≤ window.openedAt + MCP_LEGACY_LONGPOLL_MAX_MS ∧ closedAt ≤ reservedUntil
    | none => ∃ waiter, waiters.get? window.participantId = some waiter ∧
        waiter.firesAt ≤ window.openedAt + MCP_LEGACY_LONGPOLL_MAX_MS ∧
        waiter.firesAt ≤ reservedUntil

/-- The invariant of the runs. The clock is that of the environment in which it is used. -/
structure AgentWaitInvariant (s : AgentWaitSession) (now : ℕ) : Prop where
  reserved : ∀ window ∈ s.windows, window.Reserved s.agentWaiters s.lastHeldWaitEndedAt
  spaced : s.windows.Pairwise fun earlier later =>
    ∃ closedAt, earlier.closedAt = some closedAt ∧
      closedAt + MCP_LEGACY_LONGPOLL_MIN_INTERVAL_MS ≤ later.openedAt
  -- No timer is overdue.
  pending : ∀ waiter ∈ s.agentWaiters.values, now ≤ waiter.firesAt

namespace AgentWaitInvariant

variable {s : AgentWaitSession} {now : ℕ}

lemma dutyCycle (h : AgentWaitInvariant s s.clock) : DutyCycle s where
  spaced := h.spaced
  bounded := by
    intro window hwindow
    obtain ⟨reservedUntil, -, hreserved⟩ := h.reserved window hwindow
    cases hclosed : window.closedAt with
    | some closedAt =>
      rw [hclosed] at hreserved
      exact hreserved.1
    | none =>
      rw [hclosed] at hreserved
      obtain ⟨waiter, hwaiter, hfires, -⟩ := hreserved
      have hpending := h.pending waiter (KeyedMap.mem_of_get? hwaiter)
      show s.clock ≤ _
      omega

lemma advance (h : AgentWaitInvariant s now) {now' : ℕ}
    (hpending : ∀ waiter ∈ s.agentWaiters.values, now' ≤ waiter.firesAt) :
    AgentWaitInvariant s now' :=
  { h with pending := hpending }

lemma release {env : RoomEnv} (h : AgentWaitInvariant s env.now)
    (answered : AgentWaiter → Bool) : AgentWaitInvariant (s.release env answered) env.now where
  pending := by
    intro waiter hwaiter
    exact h.pending waiter (List.mem_of_mem_filter hwaiter)
  spaced := by
    show (s.windows.map _).Pairwise _
    rw [List.pairwise_map]
    refine h.spaced.imp fun {earlier later} hspaced => ?_
    obtain ⟨closedAt, hclosed, hle⟩ := hspaced
    -- A window that is closed stays as it is, and no window begins at another time.
    refine ⟨closedAt, ?_, ?_⟩
    · split_ifs
      · rw [HeldWindow.close, hclosed]
        rfl
      · exact hclosed
    · split_ifs <;> exact hle
  reserved := by
    intro window' hwindow'
    obtain ⟨window, hwindow, rfl⟩ := List.mem_map.mp hwindow'
    obtain ⟨reservedUntil, hstored, hreserved⟩ := h.reserved window hwindow
    refine ⟨reservedUntil, hstored, ?_⟩
    cases hclosed : window.closedAt with
    | some closedAt =>
      rw [hclosed] at hreserved
      split_ifs
      · simp only [HeldWindow.close, hclosed, Option.some_or]
        exact hreserved
      · simp only [hclosed]
        exact hreserved
    | none =>
      rw [hclosed] at hreserved
      obtain ⟨waiter, hwaiter, hfires, hbefore⟩ := hreserved
      have hpending := h.pending waiter (KeyedMap.mem_of_get? hwaiter)
      rw [hwaiter, Option.any_some]
      split_ifs with hanswered
      · simp only [HeldWindow.close, hclosed, Option.none_or]
        omega
      · simp only [hclosed]
        refine ⟨waiter, ?_, hfires, hbefore⟩
        show (s.agentWaiters.filter _).get? window.participantId = _
        rw [KeyedMap.get?_filter, hwaiter, Option.filter_some, if_pos]
        rw [Bool.not_eq_true] at hanswered
        rw [hanswered]
        rfl

lemma of_empty (hwindows : s.windows = []) (hwaiters : s.agentWaiters = .empty) :
    AgentWaitInvariant s now where
  reserved := by
    rw [hwindows]
    exact fun _ hmem => nomatch hmem
  spaced := by
    rw [hwindows]
    exact List.Pairwise.nil
  pending := by
    rw [hwaiters]
    exact fun _ hmem => nomatch hmem

lemma withSession (h : AgentWaitInvariant s now) (session : RoomSession) :
    AgentWaitInvariant (s.withSession session) now := by
  rw [AgentWaitSession.withSession]
  split
  · exact ⟨h.reserved, h.spaced, h.pending⟩
  · exact of_empty rfl rfl

lemma resolveAgentWaiters {env : RoomEnv} (h : AgentWaitInvariant s env.now) :
    AgentWaitInvariant (s.resolveAgentWaiters env) env.now := by
  rw [AgentWaitSession.resolveAgentWaiters]
  split
  · exact h
  · exact h.release _

lemma closed_of_cooled (h : AgentWaitInvariant s now)
    (hcooled : s.lastHeldWaitEndedAt.getD 0 + MCP_LEGACY_LONGPOLL_MIN_INTERVAL_MS ≤ now)
    {window : HeldWindow} (hwindow : window ∈ s.windows) :
    ∃ closedAt, window.closedAt = some closedAt ∧
      closedAt ≤ window.openedAt + MCP_LEGACY_LONGPOLL_MAX_MS ∧
      closedAt + MCP_LEGACY_LONGPOLL_MIN_INTERVAL_MS ≤ now := by
  obtain ⟨reservedUntil, hstored, hreserved⟩ := h.reserved window hwindow
  rw [hstored, Option.getD_some, MCP_LEGACY_LONGPOLL_MIN_INTERVAL_MS] at hcooled
  cases hclosed : window.closedAt with
  | some closedAt =>
    rw [hclosed] at hreserved
    refine ⟨closedAt, rfl, hreserved.1, ?_⟩
    rw [MCP_LEGACY_LONGPOLL_MIN_INTERVAL_MS]
    have hbefore := hreserved.2
    omega
  | none =>
    -- Its timer would be overdue.
    rw [hclosed] at hreserved
    obtain ⟨waiter, hwaiter, -, hbefore⟩ := hreserved
    have hpending := h.pending waiter (KeyedMap.mem_of_get? hwaiter)
    omega

lemma admitHeld {env : RoomEnv} (h : AgentWaitInvariant s env.now) (saved : RoomRecord)
    (alarmFails : Bool) (participantId : String) (cursor : ℕ) {waitMs : ℕ}
    (hcooled : s.lastHeldWaitEndedAt.getD 0 + MCP_LEGACY_LONGPOLL_MIN_INTERVAL_MS ≤ env.now)
    (hbounded : waitMs ≤ MCP_LEGACY_LONGPOLL_MAX_MS) : AgentWaitInvariant
      (s.admitWait env saved alarmFails participantId cursor (.held waitMs)) env.now := by
  -- All earlier windows are closed, so they ask nothing of the waiters.
  have hreserved : ∀ waiters, ∀ window ∈ s.windows,
      window.Reserved waiters (some (env.now + waitMs)) := by
    intro waiters window hwindow
    obtain ⟨closedAt, hclosed, hlasting, hbefore⟩ := h.closed_of_cooled hcooled hwindow
    refine ⟨env.now + waitMs, rfl, ?_⟩
    rw [hclosed]
    exact ⟨hlasting, by omega⟩
  rw [AgentWaitSession.admitWait]
  split_ifs with hfails
  · exact ⟨hreserved _, h.spaced, h.pending⟩
  · refine ⟨fun window hwindow => ?_, ?_, fun waiter hwaiter => ?_⟩
    · rcases List.mem_append.mp hwindow with hold | hnew
      · exact hreserved _ window hold
      · rw [List.mem_singleton.mp hnew]
        refine ⟨env.now + waitMs, rfl, _, KeyedMap.get?_set_self s.agentWaiters
          ⟨participantId, cursor, env.now + waitMs⟩, ?_, le_rfl⟩
        exact Nat.add_le_add_left hbounded env.now
    · show (s.windows ++ [_]).Pairwise _
      rw [List.pairwise_append]
      refine ⟨h.spaced, List.pairwise_singleton _ _, fun earlier hearlier later hlater => ?_⟩
      obtain ⟨closedAt, hclosed, -, hbefore⟩ := h.closed_of_cooled hcooled hearlier
      rw [List.mem_singleton.mp hlater]
      exact ⟨closedAt, hclosed, hbefore⟩
    · rcases KeyedMap.mem_set.mp hwaiter with rfl | ⟨hold, -⟩
      · exact Nat.le_add_right _ _
      · exact h.pending waiter hold

lemma held_of_waitDecision {env : RoomEnv} {room : RoomRecord} {longPollEnabled : Bool}
    {participantId : String} {cursor waitMs : ℕ} {timeoutSeconds : ℤ}
    (hdecision : s.waitDecision env room longPollEnabled participantId cursor timeoutSeconds =
      .held waitMs) : s.lastHeldWaitEndedAt.getD 0 + MCP_LEGACY_LONGPOLL_MIN_INTERVAL_MS ≤ env.now ∧
      waitMs ≤ MCP_LEGACY_LONGPOLL_MAX_MS := by
  rw [AgentWaitSession.waitDecision, legacyLongPollDecision] at hdecision
  split_ifs at hdecision with _ _ hcooling
  cases hdecision
  exact ⟨not_lt.mp hcooling, Nat.min_le_right _ _⟩

lemma admitWait {env : RoomEnv} (h : AgentWaitInvariant s env.now) (saved : RoomRecord)
    (alarmFails : Bool) {room : RoomRecord} {longPollEnabled : Bool} {participantId : String}
    {cursor : ℕ} {timeoutSeconds : ℤ} :
    AgentWaitInvariant (s.admitWait env saved alarmFails participantId cursor
      (s.waitDecision env room longPollEnabled participantId cursor timeoutSeconds)) env.now := by
  cases hdecision : s.waitDecision env room longPollEnabled participantId cursor
    timeoutSeconds with
  | held waitMs =>
    obtain ⟨hcooled, hbounded⟩ := held_of_waitDecision hdecision
    exact h.admitHeld saved alarmFails participantId cursor hcooled hbounded
  | immediate retryAfterMs => exact ⟨h.reserved, h.spaced, h.pending⟩
  | coolingDown retryAfterMs => exact ⟨h.reserved, h.spaced, h.pending⟩

lemma waitForAgent {env : RoomEnv} (h : AgentWaitInvariant s env.now)
    (longPollEnabled alarmFails : Bool) (participantId token : String) (cursor : ℕ)
    (timeoutSeconds : ℤ) :
    AgentWaitInvariant (s.waitForAgent env longPollEnabled alarmFails participantId token cursor
      timeoutSeconds) env.now := by
  rw [AgentWaitSession.waitForAgent]
  split
  · exact h.withSession _
  · next room session hactive =>
    have hloaded := h.withSession session
    dsimp only
    split
    · exact hloaded
    · next participant hfound =>
      split_ifs
      · exact hloaded
      · exact hloaded
      · have hrecorded : AgentWaitInvariant
            ((s.withSession session).recordWait env participant.id) env.now :=
          ⟨hloaded.reserved, hloaded.spaced, hloaded.pending⟩
        split
        · exact hrecorded
        · next saved hsaved => exact hrecorded.admitWait saved alarmFails

lemma beginUpload {env : RoomEnv} (h : AgentWaitInvariant s now)
    (start : RoomRecord → Option RoomUpload) : AgentWaitInvariant (s.beginUpload env start) now := by
  rw [AgentWaitSession.beginUpload]
  split
  · exact h.withSession _
  · next room session hactive =>
    have hloaded := h.withSession session
    dsimp only
    split
    · exact hloaded
    · exact ⟨hloaded.reserved, hloaded.spaced, hloaded.pending⟩

lemma finishUpload {env : RoomEnv} (h : AgentWaitInvariant s now) {index : ℕ} {id : String}
    {byteLength : ℕ} {wakes : Bool}
    (hcurrent : s.uploadsCurrent (env, .finishUpload index id byteLength wakes) = true) :
    AgentWaitInvariant (s.finishUpload env index id byteLength) now := by
  rw [AgentWaitSession.finishUpload]
  split
  · exact h
  · next suspended hsuspended =>
    dsimp only
    split
    · exact ⟨h.reserved, h.spaced, h.pending⟩
    · have hsame : suspended.lastHeldWaitEndedAt = s.lastHeldWaitEndedAt := by
        simpa [AgentWaitSession.uploadsCurrent, hsuspended] using hcurrent
      rw [hsame]
      exact ⟨h.reserved, h.spaced, h.pending⟩

lemma step {label : RoomEnv × AgentWaitOp} (h : AgentWaitInvariant s s.clock)
    (henabled : s.enabled label = true) (hcurrent : s.uploadsCurrent label = true) :
    AgentWaitInvariant (s.step label) (s.step label).clock := by
  obtain ⟨env, op⟩ := label
  rw [AgentWaitSession.enabled, Bool.and_eq_true, Bool.and_eq_true] at henabled
  have hpending : ∀ waiter ∈ s.agentWaiters.values, env.now ≤ waiter.firesAt := by
    intro waiter hwaiter
    exact of_decide_eq_true (List.all_eq_true.mp henabled.1.2 waiter hwaiter)
  have hnow := h.advance hpending
  suffices hnext : AgentWaitInvariant (s.next env op) env.now from
    ⟨hnext.reserved, hnext.spaced, hnext.pending⟩
  cases op with
  | wait longPollEnabled alarmFails participantId token cursor timeoutSeconds =>
    exact hnow.waitForAgent longPollEnabled alarmFails participantId token cursor timeoutSeconds
  | timer participantId => exact (hnow.release _).withSession _
  | operation op departed wakes =>
    have hanswered := (hnow.withSession (s.session.step env op)).release fun waiter =>
      waiter.participantId ∈ departed
    rw [AgentWaitSession.next]
    split_ifs
    · exact hanswered.resolveAgentWaiters
    · exact hanswered
  | beginSurfaceUpload participantId token mimeType declaredSize
  | beginAttachmentUpload participantId token headers => exact hnow.beginUpload _
  | finishUpload index id byteLength wakes =>
    have hfinished := hnow.finishUpload hcurrent
    rw [AgentWaitSession.next]
    split_ifs
    · exact hfinished.resolveAgentWaiters
    · exact hfinished
  | restart =>
    have hreleased := hnow.release fun _ => true
    exact ⟨hreleased.reserved, hreleased.spaced, hreleased.pending⟩

end AgentWaitInvariant

/-! ## Every run -/

/-- In a run in which no finishing upload takes back the end of the last held poll, the held polls
are bounded and apart. -/
theorem dutyCycle_of_uploadsCurrent {s : AgentWaitSession}
    (hreach : agentWaitSystem.ReachableWhen
      (fun s label => s.uploadsCurrent label = true) s) : DutyCycle s := by
  have hinvariant : AgentWaitInvariant s s.clock := by
    refine hreach.invariant (P := fun s => AgentWaitInvariant s s.clock) ?_ ?_
    · rintro s rfl
      exact .of_empty rfl rfl
    · rintro s label s' h hcurrent ⟨henabled, rfl⟩
      exact h.step henabled hcurrent
  exact hinvariant.dutyCycle

/-! ### A run in which an upload takes back the stored time -/

/-- An environment that stores everything, at a time. -/
def waitEnv (now : ℕ) (now_pos : 0 < now) : RoomEnv where
  now := now
  now_pos := now_pos
  agentMediaEnabled := true
  primaryRoomBytes _ := 0
  storageAccepts := true

/-- Three Agents join. -/
def joinLabels : List (RoomEnv × AgentWaitOp) :=
  [(waitEnv 100000 (by decide), .operation (.register
      { id := "a", name := "a", token := "t", joinedAt := 1, id_ne := by decide } (.agent none))
      [] false),
    (waitEnv 100000 (by decide), .operation (.register
      { id := "b", name := "b", token := "t", joinedAt := 1, id_ne := by decide } (.agent none))
      [] false),
    (waitEnv 100000 (by decide), .operation (.register
      { id := "c", name := "c", token := "t", joinedAt := 1, id_ne := by decide } (.agent none))
      [] false)]

/-- Two polls are held, one after the other. -/
def heldLabels : List (RoomEnv × AgentWaitOp) :=
  joinLabels ++
    [(waitEnv 100010 (by decide), .wait true false "a" "t" 0 25),
      (waitEnv 105010 (by decide), .timer "a"),
      (waitEnv 120010 (by decide), .wait true false "b" "t" 0 25)]

/-- While a poll is held, a surface upload saves the Room that it loaded before, and another poll
is held. -/
def overlappedLabels : List (RoomEnv × AgentWaitOp) :=
  joinLabels ++
    [(waitEnv 100001 (by decide), .beginSurfaceUpload "c" "t" "image/png" 10),
      (waitEnv 100010 (by decide), .wait true false "a" "t" 0 25),
      (waitEnv 100020 (by decide), .finishUpload 0 "snapshot" 10 false),
      (waitEnv 100030 (by decide), .wait true false "b" "t" 0 25)]

/-- The run with two held polls meets the guard, and the second poll is held when the gap is
over. -/
theorem dutyCycle_held :
    DutyCycle (heldLabels.foldl AgentWaitSession.step {}) ∧
      (heldLabels.foldl AgentWaitSession.step {}).windows.length = 2 := by
  have hrun : TransitionSystem.enabledRun (fun s label => s.enabled label && s.uploadsCurrent label)
      AgentWaitSession.step {} heldLabels = true := by decide +kernel
  have hwindows : (heldLabels.foldl AgentWaitSession.step {}).windows.length = 2 := by
    decide +kernel
  refine ⟨dutyCycle_of_uploadsCurrent (TransitionSystem.ReachableWhen.foldl
    (fun s label henabled => ?_) (.init rfl) hrun), hwindows⟩
  rw [Bool.and_eq_true] at henabled
  exact ⟨henabled.2, henabled.1, rfl⟩

/-- Two polls are held at once when an upload takes back the stored time. -/
theorem not_dutyCycle_overlapped : ¬∀ s, agentWaitSystem.Reachable s → DutyCycle s := by
  intro hall
  have hrun : TransitionSystem.enabledRun AgentWaitSession.enabled AgentWaitSession.step {}
      overlappedLabels = true := by decide +kernel
  have hreach : agentWaitSystem.Reachable (overlappedLabels.foldl AgentWaitSession.step {}) :=
    TransitionSystem.Reachable.foldl (T := agentWaitSystem)
      (fun s label henabled => ⟨henabled, rfl⟩) (.init rfl) hrun
  have hwindows : (overlappedLabels.foldl AgentWaitSession.step {}).windows =
      [{ participantId := "a", openedAt := 100010 }, { participantId := "b", openedAt := 100030 }]
      := by decide +kernel
  have hspaced := (hall _ hreach).spaced
  rw [hwindows, List.pairwise_pair] at hspaced
  obtain ⟨closedAt, hclosed, -⟩ := hspaced
  cases hclosed

end Free4Chat
