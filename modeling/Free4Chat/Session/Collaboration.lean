import Free4Chat.Collab.Atomicity
import Free4Chat.Session.Effects

/-!
# Collaboration in a Session

What an operation of a session can do to the collaboration log and to the bookkeeping. Most
operations append no collaboration and leave the bookkeeping alone.

* `RoomSession.WellFormed`: the invariant that all others rest on.
* `CollabStep`: what an operation can do.
* `RoomSession.collabStep_step`: every operation does one of these.
* `wellFormed_of_reachable`: the invariant holds in every run.
-/

namespace Free4Chat

/-! ## The collaboration log -/

@[simp]
lemma collabEntry?_untargeted (message : RoomMessage) :
    collabEntry? message.untargeted = collabEntry? message := rfl

@[simp]
lemma collabEntries_untargeted (messages : List RoomMessage) :
    collabEntries (messages.map RoomMessage.untargeted) = collabEntries messages := by
  simp [collabEntries, List.filterMap_map, Function.comp_def]

lemma collabEntries_collabMessage (sender : RoomParticipant) (event : CollabEvent)
    (createdAt sequence : ℕ) :
    collabEntries [{ collabMessage sender event createdAt with sequence }] =
      [(event, sequence)] := rfl

lemma collabEntries_eq_nil {messages : List RoomMessage}
    (h : ∀ message ∈ messages, NotCollab message) : collabEntries messages = [] :=
  List.filterMap_eq_nil_iff.mpr h

namespace LogExtends

variable {room room' : RoomRecord} {added : List RoomMessage}

lemma collabEntries_history (h : LogExtends room room' added) :
    collabEntries room'.history = collabEntries room.history ++ collabEntries added := by
  rw [h.history, collabEntries, List.filterMap_append]
  rfl

lemma collabEntries_messages (h : LogExtends room room' added) :
    collabEntries room'.messages <:+ collabEntries room.messages ++ collabEntries added := by
  have hsuffix := h.retained.filterMap collabEntry?
  simpa [collabEntries, List.filterMap_map, Function.comp_def] using hsuffix

end LogExtends

namespace LogExtendsBy

variable {room room' : RoomRecord}

lemma collabEntries_history (h : LogExtendsBy NotCollab room room') :
    collabEntries room'.history = collabEntries room.history := by
  obtain ⟨added, hext, hadded⟩ := h
  rw [hext.collabEntries_history, collabEntries_eq_nil hadded, List.append_nil]

lemma collabEntries_messages (h : LogExtendsBy NotCollab room room') :
    collabEntries room'.messages <:+ collabEntries room.messages := by
  obtain ⟨added, hext, hadded⟩ := h
  have hsuffix := hext.collabEntries_messages
  rwa [collabEntries_eq_nil hadded, List.append_nil] at hsuffix

lemma wellLogged {P : RoomMessage → Prop} (h : LogExtendsBy P room room')
    (hwell : WellLogged room) : WellLogged room' := by
  obtain ⟨added, hext, -⟩ := h
  exact hext.wellLogged hwell

end LogExtendsBy

lemma WellLogged.collabEntries_messages {room : RoomRecord} (h : WellLogged room) :
    collabEntries room.messages <:+ collabEntries room.history := by
  have hsuffix := h.retained.filterMap collabEntry?
  simpa [collabEntries, List.filterMap_map, Function.comp_def] using hsuffix

lemma WellLogged.length_collabEntries_lt {room : RoomRecord} (h : WellLogged room) :
    (collabEntries room.messages).length < MAX_TRACKED_REQUESTS := by
  have hlength := (List.length_filterMap_le collabEntry? room.messages).trans h.bounded
  exact hlength.trans_lt (by decide)

/-! ## Opening the Room -/

namespace RoomSession

/-- An operation finds the Room loaded, and leaves a record stored. -/
def Opens (env : RoomEnv) (s : RoomSession) (room opened : RoomRecord) : Prop :=
  ∃ stored, s.stored = some stored ∧ loadRoom env stored = some (room, opened)

/-- Nothing is tracked without a Room, and nothing is tracked before the registry is rebuilt. The
log of a stored Room is well formed. -/
structure WellFormed (s : RoomSession) : Prop where
  vacant : s.stored = none → s = {}
  cold : s.tracking.collabRebuilt = false → s.tracking.collabRegistry = {} ∧ s.phantoms = []
  wellLogged : ∀ room, s.stored = some room → WellLogged room

variable {env : RoomEnv} {s : RoomSession} {room opened : RoomRecord}

lemma Opens.logExtends (h : s.Opens env room opened) (hwell : s.WellFormed) :
    ∃ stored, s.stored = some stored ∧ LogExtends stored room [] ∧ LogExtends stored opened [] := by
  obtain ⟨stored, hstored, hload⟩ := h
  exact ⟨stored, hstored, logExtends_loadRoom (hwell.wellLogged stored hstored) hload⟩

lemma activeRoom_cases (env : RoomEnv) (s : RoomSession) :
    s.activeRoom env = (none, s) ∨ s.activeRoom env = (none, {}) ∨
      ∃ room opened, s.Opens env room opened ∧
        s.activeRoom env = (some room, { s with stored := some opened }) := by
  unfold activeRoom
  cases hstored : s.stored with
  | none => exact Or.inl rfl
  | some stored =>
    dsimp only
    cases hload : loadRoom env stored with
    | none => exact Or.inl rfl
    | some loaded =>
      obtain ⟨room, opened⟩ := loaded
      dsimp only
      split
      · exact Or.inr (Or.inl rfl)
      · exact Or.inr (Or.inr ⟨room, opened, ⟨stored, hstored, hload⟩, rfl⟩)

variable {s₁ : RoomSession}

lemma eq_of_activeRoom_none (h : s.activeRoom env = (none, s₁)) : s₁ = s ∨ s₁ = {} := by
  rcases activeRoom_cases env s with hactive | hactive | ⟨room, opened, -, hactive⟩
  · exact Or.inl (Prod.mk.inj (h.symm.trans hactive)).2
  · exact Or.inr (Prod.mk.inj (h.symm.trans hactive)).2
  · rw [hactive] at h
    exact nomatch (Prod.mk.inj h).1

lemma opens_of_activeRoom (h : s.activeRoom env = (some room, s₁)) :
    ∃ opened, s.Opens env room opened ∧ s₁ = { s with stored := some opened } := by
  rcases activeRoom_cases env s with hactive | hactive | ⟨room', opened, hopens, hactive⟩
  · rw [hactive] at h
    exact nomatch (Prod.mk.inj h).1
  · rw [hactive] at h
    exact nomatch (Prod.mk.inj h).1
  · rw [hactive] at h
    obtain ⟨hroom, rfl⟩ := Prod.mk.inj h
    obtain rfl := Option.some.inj hroom
    exact ⟨opened, hopens, rfl⟩

lemma Opens.quiet (h : s.Opens env room opened) (hwell : s.WellFormed) {saved : RoomRecord}
    (hsaved : saved = opened ∨ LogExtendsBy NotCollab room saved) :
    ∃ stored, s.stored = some stored ∧ LogExtendsBy NotCollab stored saved := by
  obtain ⟨stored, hstored, hroom, hopened⟩ := h.logExtends hwell
  refine ⟨stored, hstored, ?_⟩
  rcases hsaved with rfl | hsaved
  · exact LogExtendsBy.of_nil hopened
  · exact (LogExtendsBy.of_nil hroom).trans hsaved

/-- An operation brings an envelope, to be ingested with a record in an opened session. -/
def Receives (env : RoomEnv) (s : RoomSession) (op : SessionOp) (s₁ : RoomSession)
    (room : RoomRecord) (envelope : CollabEnvelope) : Prop :=
  ∃ collabOp loaded, op = .collab collabOp ∧ s.activeRoom env = (some loaded, s₁) ∧
    collabOp.envelope env loaded = .ok (room, envelope)

lemma Receives.logExtends {op : SessionOp} {envelope : CollabEnvelope}
    (h : s.Receives env op s₁ room envelope) (hwell : s.WellFormed) :
    ∃ stored opened, s.stored = some stored ∧ s₁ = { s with stored := some opened } ∧
      LogExtends stored room [] ∧ LogExtends stored opened [] := by
  obtain ⟨collabOp, loaded, -, hactive, henvelope⟩ := h
  obtain ⟨opened, hopens, rfl⟩ := opens_of_activeRoom hactive
  obtain ⟨stored, hstored, hloaded, hopened⟩ := hopens.logExtends hwell
  exact ⟨stored, opened, hstored, rfl,
    hloaded.trans_nil (LogExtends.of_conversation (CollabOp.conversation_envelope henvelope)),
    hopened⟩

end RoomSession

/-! ## What an operation does -/

/-- What an operation can do to the collaboration of a session. -/
inductive CollabStep (env : RoomEnv) (s : RoomSession) (op : SessionOp) : RoomSession → Prop
  -- There is no Room afterwards.
  | vacated : CollabStep env s op {}
  -- A Room is created with an empty log.
  | created {room : RoomRecord} (hhistory : room.history = []) (hmessages : room.messages = []) :
    CollabStep env s op { stored := some room }
  | restarted : CollabStep env s op { s with tracking := {}, phantoms := [] }
  -- No collaboration is appended, and the bookkeeping is left alone.
  | quiet {stored saved : RoomRecord} (hstored : s.stored = some stored)
    (hlog : LogExtendsBy NotCollab stored saved) :
    CollabStep env s op { s with stored := some saved }
  -- The registry is rebuilt from the opened Room.
  | warmed {room opened saved : RoomRecord} (hopens : s.Opens env room opened)
    (hsaved : saved = opened ∨ LogExtendsBy NotCollab room saved) :
    CollabStep env s op { s with stored := some saved, tracking := s.tracking.warm room }
  -- An envelope is ingested.
  | ingested {s₁ : RoomSession} {room : RoomRecord} {envelope : CollabEnvelope}
    (hreceives : s.Receives env op s₁ room envelope) :
    CollabStep env s op (s₁.ingested room (envelope.ingest env room s₁.tracking))

namespace RoomSession

variable {env : RoomEnv} {s : RoomSession}

section

variable (hwell : s.WellFormed)
include hwell

lemma collabStep_self (op : SessionOp) : CollabStep env s op s := by
  cases hstored : s.stored with
  | none =>
    rw [hwell.vacant hstored]
    exact .vacated
  | some stored =>
    have hquiet : CollabStep env s op { s with stored := some stored } :=
      .quiet hstored (LogExtendsBy.of_nil (LogExtends.refl stored))
    rwa [← hstored] at hquiet

lemma collabStep_of_activeRoom_none {s₁ : RoomSession}
    (h : s.activeRoom env = (none, s₁)) (op : SessionOp) : CollabStep env s op s₁ := by
  rcases eq_of_activeRoom_none h with rfl | rfl
  · exact collabStep_self hwell op
  · exact .vacated

lemma collabStep_opened (op : SessionOp) {room opened : RoomRecord}
    (hopens : s.Opens env room opened) : CollabStep env s op { s with stored := some opened } := by
  obtain ⟨stored, hstored, hlog⟩ := hopens.quiet hwell (Or.inl rfl)
  exact .quiet hstored hlog

lemma collabStep_store (op : SessionOp) {room opened : RoomRecord}
    (hopens : s.Opens env room opened) {saved : Option RoomRecord}
    (hsaved : ∀ record, saved = some record → LogExtendsBy NotCollab room record) :
    CollabStep env s op ({ s with stored := some opened }.store saved) := by
  cases saved with
  | none => exact collabStep_opened hwell op hopens
  | some record =>
    obtain ⟨stored, hstored, hlog⟩ := hopens.quiet hwell (Or.inr (hsaved record rfl))
    exact .quiet hstored hlog

lemma collabStep_withRoom (op : SessionOp) {handle : RoomRecord → Option RoomRecord}
    (hhandle : ∀ room saved, handle room = some saved → LogExtendsBy NotCollab room saved) :
    CollabStep env s op (s.withRoom env handle) := by
  unfold withRoom
  split
  · rename_i s₁ hactive
    exact collabStep_of_activeRoom_none hwell hactive op
  · rename_i room s₁ hactive
    obtain ⟨opened, hopens, rfl⟩ := opens_of_activeRoom hactive
    exact collabStep_store hwell op hopens (hhandle room)

end

lemma logExtendsBy_of_bind_saveRoom {room saved : RoomRecord} {handled : Option RoomRecord}
    (hhandled : ∀ room', handled = some room' → LogExtendsBy NotCollab room room')
    (h : handled.bind (RoomRecord.saveRoom env) = some saved) :
    LogExtendsBy NotCollab room saved := by
  obtain ⟨room', hroom', hsave⟩ := Option.bind_eq_some_iff.mp h
  exact (hhandled room' hroom').trans_saveRoom hsave

end RoomSession

lemma RegistrationKind.conversation_register {env : RoomEnv} {kind : RegistrationKind}
    {room room' : RoomRecord} {request : Registration}
    (h : kind.register env room request = .ok room') : room'.conversation = room.conversation := by
  have hadd : ∀ {participant added}, room.addParticipant participant = .ok added →
      added.conversation = room.conversation := by
    intro participant added hadded
    unfold RoomRecord.addParticipant at hadded
    split_ifs at hadded
    obtain rfl := Except.ok.inj hadded
    rfl
  cases kind with
  | human sessionId sessionId_ne =>
    simp only [register, RoomRecord.registerHuman, Except.bind_eq_ok, Except.pure_eq_ok] at h
    obtain ⟨added, hadded, rfl⟩ := h
    exact (added.conversation_applyEmptyRoomExpiry env).trans (hadd hadded)
  | agent runtimeHost =>
    simp only [register, RoomRecord.registerAgent, Except.bind_eq_ok, Except.pure_eq_ok] at h
    obtain ⟨added, hadded, rfl⟩ := h
    have hconversation := hadd hadded
    exact hconversation

namespace RoomSession

variable {env : RoomEnv} {s : RoomSession}

lemma collabStep_create (op : SessionOp) (request : Registration) (kind : RegistrationKind) :
    CollabStep env s op (({} : RoomSession).store
      ((kind.register env (RoomRecord.newRoom env) request).toOption.bind
        (RoomRecord.saveRoom env))) := by
  cases hsaved : (kind.register env (RoomRecord.newRoom env) request).toOption.bind
      (RoomRecord.saveRoom env) with
  | none => exact .vacated
  | some saved =>
    obtain ⟨room, hroom, hsave⟩ := Option.bind_eq_some_iff.mp hsaved
    have hconversation :=
      RegistrationKind.conversation_register (Except.toOption_eq_some.mp hroom)
    obtain ⟨messages, hsuffix, rfl⟩ := RoomRecord.saveRoom_eq_some env hsave
    have hmessages : room.messages = [] := congrArg Conversation.messages hconversation
    have hhistory : room.history = [] := congrArg Conversation.history hconversation
    rw [hmessages] at hsuffix
    exact .created hhistory (List.suffix_nil.mp hsuffix)

section

variable (hwell : s.WellFormed)
include hwell

lemma collabStep_register (op : SessionOp) (request : Registration)
    (kind : RegistrationKind) : CollabStep env s op (s.register env request kind) := by
  unfold register
  split
  · rename_i hstored
    rw [hwell.vacant hstored]
    exact collabStep_create op request kind
  · refine collabStep_withRoom hwell op fun room saved hsaved => ?_
    refine logExtendsBy_of_bind_saveRoom (fun room' hroom' => ?_) hsaved
    exact LogExtendsBy.of_conversation
      (RegistrationKind.conversation_register (Except.toOption_eq_some.mp hroom'))

lemma collabStep_agentCreateRoom (op : SessionOp)
    (request : Registration) : CollabStep env s op (s.agentCreateRoom env request) := by
  unfold agentCreateRoom
  split
  · rename_i hstored
    rw [hwell.vacant hstored]
    exact collabStep_create op request (.agent none)
  · exact collabStep_withRoom hwell op fun room saved hsaved => nomatch hsaved

lemma collabStep_runCollab (op : CollabOp) :
    CollabStep env s (.collab op) (s.runCollab env op) := by
  unfold runCollab
  split
  · rename_i s₁ hactive
    exact collabStep_of_activeRoom_none hwell hactive _
  · rename_i room s₁ hactive
    split
    · obtain ⟨opened, hopens, rfl⟩ := opens_of_activeRoom hactive
      exact collabStep_opened hwell _ hopens
    · rename_i room' envelope henvelope
      exact .ingested ⟨op, room, rfl, hactive, henvelope⟩

lemma collabStep_discardTaskAttachment (op : SessionOp)
    (participantId token attachmentId taskRequestId : String) : CollabStep env s op
      (s.discardTaskAttachment env participantId token attachmentId taskRequestId) := by
  unfold discardTaskAttachment
  split
  · rename_i s₁ hactive
    exact collabStep_of_activeRoom_none hwell hactive _
  · rename_i room s₁ hactive
    obtain ⟨opened, hopens, rfl⟩ := opens_of_activeRoom hactive
    split
    · exact collabStep_opened hwell op hopens
    · rename_i human _
      split
      · exact collabStep_opened hwell op hopens
      · dsimp only
        split
        · exact .warmed hopens (Or.inl rfl)
        · -- The attachment is dropped, which leaves the log alone.
          cases hsave : RoomRecord.saveRoom env (({ room with
              attachments := room.attachments.filter fun entry =>
                entry.id ≠ attachmentId }).touch env human.id) with
          | none => exact .warmed hopens (Or.inl rfl)
          | some saved =>
            refine .warmed hopens (Or.inr ?_)
            refine LogExtendsBy.trans_saveRoom ?_ hsave
            exact LogExtendsBy.of_nil (LogExtends.of_eq rfl rfl rfl)

lemma collabStep_readCollab (op : SessionOp) : CollabStep env s op (s.readCollab env) := by
  unfold readCollab
  split
  · rename_i s₁ hactive
    exact collabStep_of_activeRoom_none hwell hactive _
  · rename_i room s₁ hactive
    obtain ⟨opened, hopens, rfl⟩ := opens_of_activeRoom hactive
    exact .warmed hopens (Or.inl rfl)

lemma collabStep_cleanup (op : SessionOp)
    (results : List MediaCloseResult) : CollabStep env s op (s.cleanup env results) := by
  unfold cleanup
  split
  · exact collabStep_self hwell op
  · rename_i stored hstored
    split
    · exact collabStep_self hwell op
    · rename_i room opened hload
      refine collabStep_store hwell op ⟨stored, hstored, hload⟩ fun saved hsave => ?_
      refine LogExtendsBy.trans_saveRoom ?_ hsave
      exact LogExtendsBy.of_conversation rfl

lemma collabStep_step (op : SessionOp) : CollabStep env s op (s.step env op) := by
  cases op with
  | register request kind => exact collabStep_register hwell _ request kind
  | agentCreateRoom request => exact collabStep_agentCreateRoom hwell _ request
  | membership op =>
    refine collabStep_withRoom hwell _ fun room saved hsaved => ?_
    exact logExtendsBy_of_bind_saveRoom (fun _ h => MembershipOp.logExtendsBy_apply h) hsaved
  | media op =>
    refine collabStep_withRoom hwell _ fun room saved hsaved => ?_
    refine logExtendsBy_of_bind_saveRoom (fun room' h => ?_) hsaved
    exact LogExtendsBy.of_conversation (MediaOp.conversation_apply h)
  | conversation op =>
    exact collabStep_withRoom hwell _ fun room saved h => ConversationOp.logExtendsBy_run h
  | collab op => exact collabStep_runCollab hwell op
  | discardTaskAttachment participantId token attachmentId taskRequestId =>
    exact collabStep_discardTaskAttachment hwell _ participantId token attachmentId taskRequestId
  | readCollab => exact collabStep_readCollab hwell _
  | cleanup results => exact collabStep_cleanup hwell _ results
  | restart => exact .restarted

end

end RoomSession

/-! ## Ingestion -/

/-- The bookkeeping once the event of an envelope is recorded. -/
def CollabEnvelope.recorded (envelope : CollabEnvelope) (room : RoomRecord)
    (tracking : CollabTracking) (event : CollabEvent) : CollabTracking :=
  { tracking.warm room with
    collabRegistry := envelope.record (tracking.warm room).collabRegistry event
      (room.nextMessageSequence + 1) }

lemma CollabEnvelope.ingest_cases (env : RoomEnv) (room : RoomRecord)
    (tracking : CollabTracking) (envelope : CollabEnvelope) : (∃ answer ≠ CollabIngest.failed,
      envelope.newEvent room (tracking.warm room).collabRegistry = none ∧
      envelope.ingest env room tracking = { answer, tracking := tracking.warm room }) ∨
    ∃ event, envelope.newEvent room (tracking.warm room).collabRegistry = some event ∧
      (((room.appendMessage env (collabMessage envelope.sender event env.now)).saveRoom env =
            none ∧
          envelope.ingest env room tracking =
            { answer := .failed, tracking := envelope.recorded room tracking event }) ∨
        ∃ saved added, LogExtends room saved added ∧
          collabEntries added = [(event, room.nextMessageSequence + 1)] ∧
          (room.appendMessage env (collabMessage envelope.sender event env.now)).saveRoom env =
            some saved ∧
          envelope.ingest env room tracking =
            { answer := .recorded (room.nextMessageSequence + 1) event
              tracking := envelope.recorded room tracking event
              saved := some saved }) := by
  cases hnew : envelope.newEvent room (tracking.warm room).collabRegistry with
  | none =>
    obtain ⟨answer, hanswer, hingest⟩ := ingest_of_newEvent_eq_none env hnew
    exact Or.inl ⟨answer, hanswer, rfl, hingest⟩
  | some event =>
    refine Or.inr ⟨event, rfl, ?_⟩
    rw [ingest_of_newEvent env hnew, appendCollabEvent]
    cases hsave : (room.appendMessage env
        (collabMessage envelope.sender event env.now)).saveRoom env with
    | none => exact Or.inl ⟨rfl, rfl⟩
    | some saved =>
      exact Or.inr ⟨saved, _, (room.logExtends_appendMessage env _).trans_nil
        (RoomRecord.logExtends_saveRoom env hsave), collabEntries_collabMessage _ _ _ _, rfl, rfl⟩

lemma CollabTracking.collabRebuilt_warm (tracking : CollabTracking) (room : RoomRecord) :
    (tracking.warm room).collabRebuilt = true := by
  unfold warm
  split
  · assumption
  · rfl

lemma CollabEnvelope.ingest_wellFormed (env : RoomEnv) (room : RoomRecord)
    (tracking : CollabTracking) (envelope : CollabEnvelope) :
    (envelope.ingest env room tracking).tracking.collabRebuilt = true ∧
      ∀ saved, (envelope.ingest env room tracking).saved = some saved →
        ∃ added, LogExtends room saved added := by
  have hrebuilt := tracking.collabRebuilt_warm room
  rcases envelope.ingest_cases env room tracking with
    ⟨answer, -, -, h⟩ | ⟨event, -, ⟨-, h⟩ | ⟨saved, added, hlog, -, -, h⟩⟩
  · rw [h]
    exact ⟨hrebuilt, nofun⟩
  · rw [h]
    exact ⟨hrebuilt, nofun⟩
  · rw [h]
    refine ⟨hrebuilt, fun saved' hsaved => ?_⟩
    obtain rfl := Option.some.inj hsaved
    exact ⟨added, hlog⟩

/-! ## Runs -/

lemma CollabStep.wellFormed {env : RoomEnv} {s s' : RoomSession} {op : SessionOp}
    (h : CollabStep env s op s') (hwell : s.WellFormed) : s'.WellFormed := by
  cases h with
  | vacated => exact ⟨fun _ => rfl, fun _ => ⟨rfl, rfl⟩, fun _ h => nomatch h⟩
  | created hhistory hmessages =>
    refine ⟨fun h => (nomatch h), fun _ => ⟨rfl, rfl⟩, fun room h => ?_⟩
    obtain rfl := Option.some.inj h
    constructor <;> simp [hhistory, hmessages]
  | restarted =>
    refine ⟨fun h => ?_, fun _ => ⟨rfl, rfl⟩, hwell.wellLogged⟩
    rw [hwell.vacant h]
  | quiet hstored hlog =>
    refine ⟨fun h => (nomatch h), hwell.cold, fun room h => ?_⟩
    obtain rfl := Option.some.inj h
    exact hlog.wellLogged (hwell.wellLogged _ hstored)
  | warmed hopens hsaved =>
    refine ⟨fun h => (nomatch h), fun h => ?_, fun room h => ?_⟩
    · exact absurd h (by simp [CollabTracking.collabRebuilt_warm])
    · obtain ⟨stored, hstored, hlog⟩ := hopens.quiet hwell hsaved
      obtain rfl := Option.some.inj h
      exact hlog.wellLogged (hwell.wellLogged _ hstored)
  | ingested hreceives =>
    obtain ⟨stored, opened, hstored, rfl, hroom, hopened⟩ := hreceives.logExtends hwell
    have hstoredWell := hwell.wellLogged stored hstored
    refine ⟨fun h => ?_, fun h => ?_, fun record h => ?_⟩
    · exact absurd h (by simp [RoomSession.ingested])
    · rw [RoomSession.ingested, (CollabEnvelope.ingest_wellFormed _ _ _ _).1] at h
      cases h
    · rcases Option.or_eq_some_iff.mp h with hsaved | ⟨-, hsaved⟩
      · obtain ⟨added, hlog⟩ := (CollabEnvelope.ingest_wellFormed _ _ _ _).2 record hsaved
        exact hlog.wellLogged (hroom.wellLogged hstoredWell)
      · obtain rfl := Option.some.inj hsaved
        exact hopened.wellLogged hstoredWell

lemma RoomSession.wellFormed_empty : ({} : RoomSession).WellFormed :=
  ⟨fun _ => rfl, fun _ => ⟨rfl, rfl⟩, fun _ h => nomatch h⟩

variable {guard : RoomSession → RoomEnv × SessionOp → Prop}

lemma wellFormed_of_reachable
    {s : RoomSession} (hreach : roomSessionSystem.ReachableWhen guard s) : s.WellFormed := by
  refine hreach.invariant (fun s hinit => ?_) fun s label s' hwell _ hstep => ?_
  · rw [show s = {} from hinit]
    exact RoomSession.wellFormed_empty
  · rw [show s' = s.step label.1 label.2 from hstep]
    exact (RoomSession.collabStep_step hwell label.2).wellFormed hwell

lemma RoomSession.invariant_of_collabStep {Inv : RoomSession → Prop} (hinit : Inv {})
    (hstep : ∀ {env s op s'}, s.WellFormed → Inv s → guard s (env, op) →
      CollabStep env s op s' → Inv s')
    {s : RoomSession} (hreach : roomSessionSystem.ReachableWhen guard s) : Inv s := by
  refine hreach.invariant_of (fun s h => wellFormed_of_reachable h) (fun s hs => ?_) ?_
  · rw [show s = {} from hs]
    exact hinit
  · intro s label s' hwell hinv hguard hs'
    rw [show s' = s.step label.1 label.2 from hs']
    exact hstep hwell hinv hguard (RoomSession.collabStep_step hwell label.2)

end Free4Chat
